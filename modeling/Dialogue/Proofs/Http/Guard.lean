import Dialogue.Http.Action
import Dialogue.Proofs.History

/-!
# Where calls may go

Whatever a template resolves to and whatever the transport does, a call sends at most one request,
to the address that its texts resolve to with the query in place, and only where the allowlist
admits that address (`run_guarded`). The address is judged before the query is added; adding it
changes neither scheme nor host (`admits_addPairs`), so the judgement is one of the address that is
sent. A call that is not sent fails and gives no variable a value.
-/

namespace Dialogue

namespace Allowlist

/-- An entry covers its own name and the names that end in a point and it. -/
theorem covers_iff {domain host : List Char} :
    covers domain host = true ↔ host = domain ∨ ∃ front, host = front ++ '.' :: domain := by
  simp only [covers, Bool.or_eq_true, Bool.and_eq_true, beq_iff_eq, List.isSuffixOf_iff_suffix]
  refine or_congr_right ⟨?_, ?_⟩
  · rintro ⟨⟨front, rfl⟩, hlast⟩
    rw [List.length_append, Nat.add_sub_cancel, List.take_left] at hlast
    obtain ⟨rest, rfl⟩ := List.getLast?_eq_some_iff.1 hlast
    exact ⟨rest, by simp⟩
  · rintro ⟨front, rfl⟩
    rw [List.append_cons, List.length_append, Nat.add_sub_cancel, List.take_left]
    exact ⟨List.suffix_append _ _, by simp⟩

/-- Requests may go to an address if it is a secure one and a list that allows something permits
its host. -/
def Admits (a : Allowlist) (u : Url) : Prop :=
  u.scheme = "https" ∧ a.domains ≠ [] ∧ ∃ host, u.host = some host ∧ a.permits host = true

theorem admits_addPairs {a : Allowlist} {u : Url} {pairs : List (String × String)} :
    a.Admits (u.addPairs pairs) ↔ a.Admits u := by
  unfold Url.addPairs
  split
  · rfl
  · rfl

end Allowlist

namespace HttpCall

variable {c : HttpCall} {names : HostNames} {settings : HttpSettings} {scope : Json}
  {allowed : Allowlist}

/-- The address that the texts of a call resolve to, if they do. -/
def destination? (c : HttpCall) (names : HostNames) (scope : Json) : Option Url :=
  match Url.parse (Text.trim (Template.resolve c.url scope)) names with
  | .ok url => some (url.addPairs (resolvePairs scope c.queryParams))
  | .error _ => none

/-- A call may be sent if its address is admitted and its body resolves. -/
def Sendable (c : HttpCall) (names : HostNames) (scope : Json) (allowed : Allowlist) : Prop :=
  (∃ url, c.destination? names scope = some url ∧ allowed.Admits url)
    ∧ ∃ body, content scope c.body = .ok body

theorem address_of_parse_error {e : UrlError}
    (hp : Url.parse (Text.trim (Template.resolve c.url scope)) names = .error e) :
    c.address names scope allowed = .error (.address (Template.resolve c.url scope) e) := by
  unfold address
  simp only [hp]
  rfl

/-- An address that can be read is judged by its scheme, by its host, and by the list. -/
theorem address_of_parse_ok {url : Url}
    (hp : Url.parse (Text.trim (Template.resolve c.url scope)) names = .ok url) :
    c.address names scope allowed
      = if url.scheme = "https" then
          match url.host with
          | none => .error .noHost
          | some host =>
            if allowed.isEmpty then .error .nothingAllowed
            else if allowed.permits host then .ok url else .error (.notAllowed host)
        else .error (.notSecure url.scheme) := by
  unfold address
  simp only [hp, bind, Except.bind]
  by_cases hs : url.scheme = "https"
  · rw [if_pos hs, if_neg fun insecure => insecure hs]
    cases url.host with
    | none => rfl
    | some host => cases allowed.isEmpty <;> rfl
  · rw [if_neg hs, if_pos hs]
    rfl

variable (allowed) in
/-- An address that can be read is either admitted and given back or turned down. -/
theorem address_of_parse {url : Url}
    (hp : Url.parse (Text.trim (Template.resolve c.url scope)) names = .ok url) :
    c.address names scope allowed = .ok url ∧ allowed.Admits url
      ∨ (∃ reason, c.address names scope allowed = .error reason) ∧ ¬ allowed.Admits url := by
  rw [address_of_parse_ok hp]
  unfold Allowlist.Admits Allowlist.isEmpty
  by_cases hs : url.scheme = "https"
  · rw [if_pos hs]
    cases hh : url.host with
    | none => exact .inr ⟨⟨.noHost, rfl⟩, by simp⟩
    | some host =>
      by_cases ha : allowed.domains = []
      · exact .inr ⟨⟨.nothingAllowed, by simp [ha]⟩, by simp [ha]⟩
      · cases hperm : allowed.permits host with
        | true => exact .inl ⟨by simp [ha, hperm], hs, ha, host, rfl, hperm⟩
        | false => exact .inr ⟨⟨.notAllowed host, by simp [ha, hperm]⟩, by simp [hperm]⟩
  · rw [if_neg hs]
    exact .inr ⟨⟨.notSecure url.scheme, rfl⟩, by simp [hs]⟩

theorem address_eq_ok_iff {url : Url} : c.address names scope allowed = .ok url
    ↔ Url.parse (Text.trim (Template.resolve c.url scope)) names = .ok url
      ∧ allowed.Admits url := by
  cases hp : Url.parse (Text.trim (Template.resolve c.url scope)) names with
  | error e => simp [address_of_parse_error hp]
  | ok u =>
    rcases address_of_parse allowed hp with ⟨h, ha⟩ | ⟨⟨reason, h⟩, ha⟩
    · rw [h]
      constructor
      · rintro ⟨⟩
        exact ⟨rfl, ha⟩
      · rintro ⟨⟨⟩, -⟩
        rfl
    · rw [h]
      constructor
      · rintro ⟨⟩
      · rintro ⟨⟨⟩, hu⟩
        exact absurd hu ha

theorem prepare_eq_ok_iff {request : HttpRequest} :
    c.prepare settings scope allowed = .ok request ↔ ∃ url body,
      c.address settings.hostNames scope allowed = .ok url ∧ content scope c.body = .ok body ∧
        request = ⟨c.method, url.addPairs (resolvePairs scope c.queryParams),
          credentials scope c.auth, resolvePairs scope c.headers, body,
          c.timeoutMs.getD settings.timeoutMs⟩ := by
  unfold prepare
  cases c.address settings.hostNames scope allowed with
  | error e => simp [bind, Except.bind]
  | ok url => cases content scope c.body with
    | error e => simp [bind, Except.bind]
    | ok body => simp [bind, Except.bind, pure, Except.pure, eq_comm]

/-- What is prepared goes to the address that the texts resolve to, where requests may go. -/
theorem url_of_prepare {request : HttpRequest}
    (h : c.prepare settings scope allowed = .ok request) :
    c.destination? settings.hostNames scope = some request.url ∧ allowed.Admits request.url := by
  obtain ⟨url, body, ha, -, rfl⟩ := prepare_eq_ok_iff.1 h
  obtain ⟨hp, hu⟩ := address_eq_ok_iff.1 ha
  exact ⟨by simp only [destination?, hp], Allowlist.admits_addPairs.2 hu⟩

variable (settings) in
theorem sendable_iff : c.Sendable settings.hostNames scope allowed
    ↔ ∃ request, c.prepare settings scope allowed = .ok request := by
  constructor
  · rintro ⟨⟨url, hd, hu⟩, body, hb⟩
    unfold destination? at hd
    cases hp : Url.parse (Text.trim (Template.resolve c.url scope)) settings.hostNames with
    | error e => simp [hp] at hd
    | ok u =>
      simp only [hp, Option.some.injEq] at hd
      subst hd
      have ha := address_eq_ok_iff.2 ⟨hp, Allowlist.admits_addPairs.1 hu⟩
      exact ⟨_, prepare_eq_ok_iff.2 ⟨u, body, ha, hb, rfl⟩⟩
  · rintro ⟨request, h⟩
    obtain ⟨-, body, -, hb, -⟩ := prepare_eq_ok_iff.1 h
    exact ⟨⟨request.url, url_of_prepare h⟩, body, hb⟩

section Transport

variable {σ : Type} (transport : HttpRequest → σ → Except HttpFailure HttpResponse × σ) (s : σ)

theorem history_of_prepare {request : HttpRequest}
    (hp : c.prepare settings scope allowed = .ok request) :
    (c.run settings scope allowed).history transport s = [⟨request, (transport request s).1⟩] := by
  unfold run
  simp only [hp, Program.history]
  cases (transport request s).1 <;> rfl

theorem run_of_prepare_error {reason : Rejection}
    (hp : c.prepare settings scope allowed = .error reason) :
    c.run settings scope allowed = .done (.failure reason.message) := by
  unfold run
  simp only [hp]

variable (c settings scope allowed) in
/-- Whatever the transport answers, a call sends at most one request, only to the address its texts
resolve to and only where requests may go, and sends none exactly when it may not be sent; then it
fails and maps no variable. -/
theorem run_guarded :
    ((c.run settings scope allowed).history transport s).length ≤ 1
      ∧ (∀ x ∈ (c.run settings scope allowed).history transport s,
          c.destination? settings.hostNames scope = some x.1.url ∧ allowed.Admits x.1.url)
      ∧ ((c.run settings scope allowed).history transport s = []
          ↔ ¬ c.Sendable settings.hostNames scope allowed)
      ∧ (¬ c.Sendable settings.hostNames scope allowed →
          ((c.run settings scope allowed).run transport s).1.success = false
            ∧ ((c.run settings scope allowed).run transport s).1.mapped = []) := by
  rw [sendable_iff settings]
  cases hp : c.prepare settings scope allowed with
  | error reason =>
    rw [run_of_prepare_error hp]
    refine ⟨Nat.zero_le 1, by simp [Program.history], by simp [Program.history], ?_⟩
    exact fun _ => ⟨rfl, rfl⟩
  | ok request =>
    rw [history_of_prepare transport s hp]
    refine ⟨Nat.le_refl 1, ?_, by simp, fun h => absurd ⟨request, rfl⟩ h⟩
    intro x hx
    rw [List.mem_singleton] at hx
    subst hx
    exact url_of_prepare hp

end Transport

end HttpCall

end Dialogue
