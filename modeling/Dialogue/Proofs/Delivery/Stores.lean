import Dialogue.Proofs.Booking.Declined
import Dialogue.Proofs.Conversation.Stored
import Dialogue.Proofs.Delivery.Claims
import Dialogue.Proofs.Delivery.Serving

/-!
# What the stores hold after a history

Conversations, claims of days, records of messages, the log and the appointments are all that a
delivery can change. Stores answer by what they hold, or fail and stay as they are
(`Stores.Replies`), and a history takes them from one state to another (`Stores.Serves`). Requests
that only read change nothing, so of a history only the rest has to be looked at.
-/

namespace Dialogue

/-- The requests that leave all stores as they are. -/
def Request.OnlyReads : Request → Prop
  | .workflowsByToken _ _ | .workflowsWithEntry _ | .loadConversation _ | .findMessage _
  | .lock _ | .unlock _ => True
  | _ => False

/-- Nothing was sent, called, recorded or logged. -/
def Unnoticed (h : History) : Prop := ∀ x ∈ h, ¬ x.1.OfChain

/-- What the stores of a service hold. -/
structure Stores where
  conversations : ConversationTable
  claims : List DayClaim
  messages : SentMessageTable
  log : List LogEntry
  appointments : BookingTables

namespace Stores

/-- The stores answer a request by what they hold and keep what they are given, or fail and stay as
they are; requests to others leave them as they are. -/
def Replies (t : Stores) : Exchange Request.Answer → Stores → Prop
  | ⟨.loadConversation key, .ok found⟩, t' => found = t.conversations.find? key ∧ t' = t
  | ⟨.saveConversation c, .ok _⟩, t' =>
    t' = { t with conversations := t.conversations.save c }
  | ⟨.claimDay c, .ok true⟩, t' => c ∉ t.claims ∧ t' = { t with claims := t.claims ++ [c] }
  | ⟨.claimDay c, .ok false⟩, t' => c ∈ t.claims ∧ t' = t
  | ⟨.recordMessage m, .ok _⟩, t' => t' = { t with messages := t.messages.record m }
  | ⟨.findMessage messageId, .ok found⟩, t' => found = t.messages.find? messageId ∧ t' = t
  | ⟨.appendLog entry, .ok _⟩, t' => t' = { t with log := t.log ++ [entry] }
  | ⟨.booking q, r⟩, t' =>
    ∃ u, t.appointments.Replies ⟨q, r⟩ u ∧ t' = { t with appointments := u }
  | _, t' => t' = t

/-- The stores reply to all that a history asks, one after another. -/
def Serves : Stores → History → Stores → Prop
  | t, [], t' => t' = t
  | t, x :: h, t' => ∃ u, t.Replies x u ∧ Serves u h t'

variable {t t' : Stores}

theorem serves_append : ∀ {t : Stores} {h₁ h₂ : History},
    t.Serves (h₁ ++ h₂) t' ↔ ∃ u, t.Serves h₁ u ∧ u.Serves h₂ t'
  | t, [], h₂ => by simp [Serves]
  | t, x :: h₁, h₂ => by
    simp only [List.cons_append, Serves, serves_append]
    constructor
    · rintro ⟨u, hx, w, h₁, h₂⟩
      exact ⟨w, ⟨u, hx, h₁⟩, h₂⟩
    · rintro ⟨w, ⟨u, hx, h₁⟩, h₂⟩
      exact ⟨u, hx, w, h₁, h₂⟩

theorem Replies.eq_of_onlyReads {x : Exchange Request.Answer} (h : t.Replies x t')
    (hx : x.1.OnlyReads) : t' = t := by
  obtain ⟨q, r⟩ := x
  cases q with
  | loadConversation key =>
    cases r with
    | error err => exact h
    | ok found => exact h.2
  | findMessage messageId =>
    cases r with
    | error err => exact h
    | ok found => exact h.2
  | workflowsByToken | workflowsWithEntry | lock | unlock => exact h
  | _ => exact hx.elim

theorem Serves.eq_of_onlyReads : ∀ {t : Stores} {h : History}, t.Serves h t' →
    (∀ x ∈ h, x.1.OnlyReads) → t' = t
  | _, [], served, _ => served
  | _, x :: _, ⟨u, hx, served⟩, reads => by
    obtain ⟨first, rest⟩ := List.forall_mem_cons.1 reads
    obtain rfl := hx.eq_of_onlyReads first
    exact served.eq_of_onlyReads rest

theorem Replies.claims_eq {x : Exchange Request.Answer} (h : t.Replies x t')
    (hx : ¬ x.1.Claims) : t'.claims = t.claims := by
  by_cases reads : x.1.OnlyReads
  · rw [h.eq_of_onlyReads reads]
  · obtain ⟨q, r⟩ := x
    cases q with
    | claimDay c => exact absurd trivial hx
    | booking q =>
      obtain ⟨u, -, rfl⟩ := h
      rfl
    | saveConversation | recordMessage | appendLog =>
      cases r with
      | error err => exact congrArg claims h
      | ok u => rw [show t' = _ from h]
    | channel | setting | send | http | pause | newLogId => exact congrArg claims h
    | _ => exact absurd trivial reads

theorem Serves.claims_eq : ∀ {t : Stores} {h : History}, t.Serves h t' →
    (∀ x ∈ h, ¬ x.1.Claims) → t'.claims = t.claims
  | _, [], served, _ => congrArg claims served
  | _, x :: _, ⟨u, hx, served⟩, quiet => by
    obtain ⟨first, rest⟩ := List.forall_mem_cons.1 quiet
    exact (served.claims_eq rest).trans (hx.claims_eq first)

/-- What a booking asks goes to the appointments. -/
theorem serves_inService : ∀ {t : Stores} {calls : List BookingExchange},
    t.Serves (calls.map BookingExchange.inService) t' →
      ∃ u, t.appointments.Serves calls u ∧ t' = { t with appointments := u }
  | t, [], served => ⟨t.appointments, rfl, served⟩
  | t, x :: calls, ⟨_, ⟨u, hx, rfl⟩, served⟩ => by
    obtain ⟨w, booked, rfl⟩ := serves_inService served
    exact ⟨w, ⟨u, hx, booked⟩, rfl⟩

/-- A booking that made, cancelled and moved nothing leaves all stores as they are. -/
theorem Serves.eq_of_not_alters {calls : List BookingExchange}
    (served : t.Serves (calls.map BookingExchange.inService) t')
    (spared : ∀ x ∈ calls, ¬ x.Alters) : t' = t := by
  obtain ⟨u, booked, rfl⟩ := serves_inService served
  rw [booked.eq_of_not_alters spared]

/-! ## What is over -/

/-- The stores differ in nothing but conversations, and in these only by what they were in the
middle of, where that is over. -/
structure Ended (gone : ConversationKey → Conversation → Prop) (t t' : Stores) : Prop where
  others : t' = { t with conversations := t'.conversations }
  each : ∀ key, t'.conversations.find? key = t.conversations.find? key
    ∨ ∃ c, t.conversations.find? key = some c ∧ gone key c
      ∧ t'.conversations.find? key = some c.clearProgress

variable {gone gone' : ConversationKey → Conversation → Prop}

theorem Ended.refl (t : Stores) : Ended gone t t := ⟨rfl, fun _ => .inl rfl⟩

theorem Ended.mono (h : Ended gone t t') (wider : ∀ key c, gone key c → gone' key c) :
    Ended gone' t t' := by
  refine ⟨h.others, fun key => ?_⟩
  rcases h.each key with same | ⟨c, before, ended, after⟩
  · exact .inl same
  · exact .inr ⟨c, before, wider key c ended, after⟩

/-- What is over stays over. -/
theorem Ended.trans {u : Stores} (first : Ended gone t u) (second : Ended gone u t') :
    Ended gone t t' := by
  constructor
  · rw [second.others, first.others]
  · intro key
    rcases second.each key with same | ⟨c, before, ended, after⟩
    · rw [same]
      exact first.each key
    · rcases first.each key with same | ⟨d, before', ended', after'⟩
      · exact .inr ⟨c, same ▸ before, ended, after⟩
      · obtain rfl : d.clearProgress = c := Option.some.inj (after'.symm.trans before)
        exact .inr ⟨d, before', ended', after⟩

theorem Ended.save {key : ConversationKey} {c : Conversation}
    (found : t.conversations.find? key = some c) (ended : gone key c) :
    Ended gone t { t with conversations := t.conversations.save c.clearProgress } := by
  refine ⟨rfl, fun other => ?_⟩
  have same : c.key = key := ConversationTable.key_of_find? found
  by_cases hkey : other = key
  · subst hkey
    refine .inr ⟨c, found, ended, ?_⟩
    rw [← same]
    exact ConversationTable.find?_save_self _ c.clearProgress
  · have other : other ≠ c.clearProgress.key := fun h => hkey (h.trans same)
    exact .inl (ConversationTable.find?_save_of_ne _ other)

end Stores

theorem Unnoticed.append {h₁ h₂ : History} (first : Unnoticed h₁) (second : Unnoticed h₂) :
    Unnoticed (h₁ ++ h₂) :=
  fun x hx => (List.mem_append.1 hx).elim (first x) (second x)

theorem unnoticed_of_onlyReads {h : History} (reads : ∀ x ∈ h, x.1.OnlyReads) : Unnoticed h := by
  rintro ⟨q, r⟩ hx noticed
  have hq := reads _ hx
  cases q <;> first | exact hq | exact noticed

end Dialogue
