import Mathlib.Tactic.SplitIfs
import Dialogue.Http.Wire

/-!
# Bodies up to a limit

A body is taken chunk by chunk. There is a turn for every number of chunks that fit together, and
it holds just these chunks (`getElem?_collect`), so no turn holds more than the limit, whether the
body comes to its end or goes past the limit (`length_le_of_mem_held`). Which of the two it is hangs
on the length of the whole body alone (`body?_collect`). An answer that arrives whole is therefore
given back as it is, unless its status, its declared length or its length is in the way
(`send_arrived`).
-/

namespace Dialogue

namespace Arrival

variable {limit : Nat} {taken chunk : List UInt8} {chunks : List (List UInt8)}

/-! ## One turn -/

theorem collect_of_lt (past : limit < taken.length + chunk.length) :
    collect limit taken (chunk :: chunks) = ⟨[taken], false⟩ := if_pos past

theorem collect_of_le (fits : taken.length + chunk.length ≤ limit) :
    collect limit taken (chunk :: chunks)
      = ⟨taken :: (collect limit (taken ++ chunk) chunks).held,
          (collect limit (taken ++ chunk) chunks).whole⟩ := if_neg (Nat.not_lt.2 fits)

theorem exists_held_eq_cons (limit : Nat) (taken : List UInt8) (chunks : List (List UInt8)) :
    ∃ later, (collect limit taken chunks).held = taken :: later := by
  cases chunks with
  | nil => exact ⟨[], rfl⟩
  | cons chunk rest =>
    unfold collect
    split <;> exact ⟨_, rfl⟩

theorem body?_collect_of_le (fits : taken.length + chunk.length ≤ limit) :
    (collect limit taken (chunk :: chunks)).body?
      = (collect limit (taken ++ chunk) chunks).body? := by
  obtain ⟨later, held⟩ := exists_held_eq_cons limit (taken ++ chunk) chunks
  simp only [Intake.body?, collect_of_le fits, held, List.getLast?_cons_cons]

/-! ## All turns -/

/-- There is a turn for every number of chunks that fit together, and it holds just them. -/
theorem getElem?_collect {k : Nat} {held : List UInt8} (start : taken.length ≤ limit) :
    (collect limit taken chunks).held[k]? = some held
      ↔ k ≤ chunks.length ∧ held = taken ++ (chunks.take k).flatten ∧ held.length ≤ limit := by
  -- A turn behind a first chunk is one of the rest, at the start of which that chunk is held.
  induction k generalizing taken chunks with
  | zero =>
    obtain ⟨later, first⟩ := exists_held_eq_cons limit taken chunks
    rw [first, List.getElem?_cons_zero, List.take_zero, List.flatten_nil, List.append_nil,
      Option.some_inj]
    constructor
    · rintro rfl
      exact ⟨Nat.zero_le _, rfl, start⟩
    · exact fun h => h.2.1.symm
  | succ k ih =>
    cases chunks with
    | nil => simp [collect]
    | cons chunk rest =>
      rw [List.take_succ_cons, List.flatten_cons, ← List.append_assoc, List.length_cons,
        Nat.add_le_add_iff_right]
      by_cases past : limit < taken.length + chunk.length
      · rw [collect_of_lt past]
        -- What would be held here has the chunk that goes past the limit in it.
        refine iff_of_false (by simp) ?_
        rintro ⟨-, rfl, le⟩
        rw [List.length_append, List.length_append] at le
        omega
      · have fits := Nat.not_lt.1 past
        rw [collect_of_le fits, List.getElem?_cons_succ]
        exact ih (by rwa [List.length_append])

theorem length_le_of_mem_held {held : List UInt8} (start : taken.length ≤ limit)
    (mem : held ∈ (collect limit taken chunks).held) : held.length ≤ limit := by
  obtain ⟨k, at_k⟩ := List.mem_iff_getElem?.1 mem
  exact ((getElem?_collect start).1 at_k).2.2

/-- The body of chunks is what they make up, unless that is past the limit. -/
theorem body?_collect (start : taken.length ≤ limit) : (collect limit taken chunks).body?
    = if limit < (taken ++ chunks.flatten).length then none else some (taken ++ chunks.flatten) := by
  induction chunks generalizing taken with
  | nil =>
    rw [List.flatten_nil, List.append_nil, if_neg (Nat.not_lt.2 start)]
    rfl
  | cons chunk rest ih =>
    rw [List.flatten_cons, ← List.append_assoc]
    by_cases past : limit < taken.length + chunk.length
    · have longer : limit < (taken ++ chunk ++ rest.flatten).length := by
        rw [List.length_append, List.length_append]
        omega
      rw [collect_of_lt past, if_pos longer]
      rfl
    · have fits := Nat.not_lt.1 past
      rw [body?_collect_of_le fits, ih (by rwa [List.length_append])]

/-! ## Responses -/

variable (a : Arrival)

theorem isRedirect_iff : a.isRedirect = true ↔ 300 ≤ a.status ∧ a.status < 400 := by
  rw [isRedirect, Bool.and_eq_true, decide_eq_true_eq, decide_eq_true_eq]

theorem declaresMore_iff : a.declaresMore limit = true ↔ ∃ n ∈ a.declared, limit < n := by
  unfold declaresMore
  cases a.declared <;> simp

/-- An answer that arrives whole is given back, unless it is a redirect or past the limit in what it
declares or in what it is. -/
theorem response_complete (complete : a.ending = .complete) (timeoutMs : UInt64) :
    a.response limit timeoutMs
      = if 300 ≤ a.status ∧ a.status < 400 then .error (.redirect a.status)
        else if (∃ n ∈ a.declared, limit < n) ∨ limit < a.chunks.flatten.length then
          .error (.tooLarge limit)
        else .ok ⟨a.status, a.chunks.flatten⟩ := by
  have start : ([] : List UInt8).length ≤ limit := Nat.zero_le limit
  unfold response
  simp only [isRedirect_iff, declaresMore_iff, body?_collect start, List.nil_append, complete]
  split
  · rfl
  · by_cases declared : ∃ n ∈ a.declared, limit < n
    · rw [if_pos declared, if_pos (.inl declared)]
    · rw [if_neg declared]
      by_cases longer : limit < a.chunks.flatten.length
      · rw [if_pos longer, if_pos (.inr longer)]
      · rw [if_neg longer, if_neg (not_or.2 ⟨declared, longer⟩)]

/-- The body of a response is what was held last of its chunks. -/
theorem getLast?_of_response {response : HttpResponse} {timeoutMs : UInt64}
    (h : a.response limit timeoutMs = .ok response) :
    (collect limit [] a.chunks).held.getLast? = some response.body := by
  unfold Arrival.response at h
  split_ifs at h
  split at h
  · cases h
  · rename_i body taken
    split at h <;> cases h
    exact (Option.ite_none_right_eq_some.1 taken).2

end Arrival

open Arrival in
/-- A request whose answer arrives whole fails with the redirect for every status of one, and else
with the limit if that is below the length the answer declares or the length of all its chunks
together, and else gives those chunks back as one body. Whatever the result, no turn of taking the
chunks holds more bytes than the limit; each holds the chunks so far, there is one as long as these
fit, and a body that is given back is what the last one holds. -/
theorem HttpRequest.send_arrived {σ : Type} {r : HttpRequest} {wire : WireRequest}
    (sent : WireRequest.of? r = some wire) {transport : WireRequest → σ → Reception × σ} {s : σ}
    {a : Arrival} (arrived : (transport wire s).1 = .arrived a) (complete : a.ending = .complete)
    (limit : Nat) :
    ((r.send limit).run transport s).1
      = (if 300 ≤ a.status ∧ a.status < 400 then .error (.redirect a.status)
        else if (∃ n ∈ a.declared, limit < n) ∨ limit < a.chunks.flatten.length then
          .error (.tooLarge limit)
        else .ok ⟨a.status, a.chunks.flatten⟩)
    ∧ (∀ held ∈ (collect limit [] a.chunks).held, held.length ≤ limit)
    ∧ (∀ k held, (collect limit [] a.chunks).held[k]? = some held
        ↔ k ≤ a.chunks.length ∧ held = (a.chunks.take k).flatten ∧ held.length ≤ limit)
    ∧ ∀ body, ((r.send limit).run transport s).1 = .ok ⟨a.status, body⟩ →
        (collect limit [] a.chunks).held.getLast? = some body := by
  have ran : ((r.send limit).run transport s).1 = a.response limit r.timeoutMs := by
    unfold send
    simp only [sent, Program.run, arrived, Reception.response]
  have start : ([] : List UInt8).length ≤ limit := Nat.zero_le limit
  refine ⟨ran.trans (a.response_complete complete r.timeoutMs), ?_, ?_, ?_⟩
  · exact fun held mem => length_le_of_mem_held start mem
  · exact fun k held => getElem?_collect start
  · intro body given
    exact a.getLast?_of_response (ran.symm.trans given)

namespace Menu

/-- A body that is as long as the limit of the first try, in chunks of which one is empty. -/
def arrival : Arrival where
  status := 200
  location := none
  declared := none
  chunks := [[91, 49], [], [44, 50, 93]]
  ending := .complete

def request : HttpRequest where
  method := .get
  url := ⟨"https", "", "", some "menu.example.com", none, "/", none, none⟩
  auth := .none
  headers := []
  body := .empty
  timeoutMs := 10000

def wire : WireRequest := ⟨"GET", "/", [], ""⟩

def transport (_ : WireRequest) (_ : Unit) : Reception × Unit := (.arrived arrival, ())

end Menu

open Menu Arrival in
theorem HttpRequest.send_arrived_menu : WireRequest.of? request = some wire
    ∧ ((request.send 5).run transport ()).1 = .ok ⟨200, [91, 49, 44, 50, 93]⟩
    ∧ ((request.send 4).run transport ()).1 = .error (.tooLarge 4)
    ∧ (collect 4 [] arrival.chunks).held = [[], [91, 49], [91, 49]]
    ∧ ∀ held ∈ (collect 4 [] arrival.chunks).held, held.length ≤ 4 := by
  have sent : WireRequest.of? request = some wire := by decide +kernel
  have arrived : (transport wire ()).1 = .arrived arrival := rfl
  have result := HttpRequest.send_arrived sent arrived rfl
  exact ⟨sent, (result 5).1.trans rfl, (result 4).1.trans rfl, rfl, (result 4).2.1⟩

end Dialogue
