import Dialogue.Proofs.Delivery.Stores

/-!
# What is held for one conversation

Of all that a history does to the stores, one conversation is changed by the saves under its key
only, and what is loaded under the key is what the saves before have left (`Stores.Serves.held`).
The log only grows, by the entries that it took (`Stores.Serves.log_eq`).
-/

namespace Dialogue

open ConversationTable

/-- The conversation that is held under a key after an exchange. -/
def heldAfter (key : ConversationKey) (held : Option Conversation) :
    Exchange Request.Answer → Option Conversation
  | ⟨.saveConversation c, .ok _⟩ => if c.key = key then some c else held
  | _ => held

/-- What is loaded under a key is what is held under it. -/
def LoadsHeld (key : ConversationKey) (held : Option Conversation)
    (x : Exchange Request.Answer) : Prop :=
  ∀ found, x = ⟨.loadConversation key, .ok found⟩ → found = held

/-- The entry that the log took. -/
def logged? : Exchange Request.Answer → Option LogEntry
  | ⟨.appendLog entry, .ok _⟩ => some entry
  | _ => none

theorem heldAfter_of_ne {key : ConversationKey} {held : Option Conversation}
    {x : Exchange Request.Answer} (other : ∀ c, x.1 = .saveConversation c → c.key ≠ key) :
    heldAfter key held x = held := by
  obtain ⟨q, r⟩ := x
  cases q with
  | saveConversation c =>
    cases r with
    | error err => rfl
    | ok a => exact if_neg (other c rfl)
  | _ => rfl

theorem ConversationTable.find?_next (t : ConversationTable) (key : ConversationKey)
    (x : Exchange Request.Answer) : (t.next x).find? key = heldAfter key (t.find? key) x := by
  obtain ⟨q, r⟩ := x
  cases q with
  | saveConversation c =>
    cases r with
    | error err => rfl
    | ok a =>
      by_cases own : c.key = key
      · subst own
        exact (find?_save_self t c).trans (if_pos rfl).symm
      · exact (find?_save_of_ne t (Ne.symm own)).trans (if_neg own).symm
  | _ => rfl

namespace Stores

variable {t t' : Stores} {x : Exchange Request.Answer}

/-- What one exchange leaves of the conversations and the log. -/
theorem Replies.kept (h : t.Replies x t') :
    t'.conversations = t.conversations.next x ∧ t'.log = t.log ++ (logged? x).toList := by
  have nothing : t.log = t.log ++ [] := (List.append_nil t.log).symm
  by_cases reads : x.1.OnlyReads
  · rw [h.eq_of_onlyReads reads]
    obtain ⟨q, r⟩ := x
    cases q with
    | workflowsByToken | workflowsWithEntry | loadConversation | findMessage | lock | unlock =>
      exact ⟨rfl, nothing⟩
    | _ => exact reads.elim
  · obtain ⟨q, r⟩ := x
    cases q with
    | booking q =>
      obtain ⟨u, -, rfl⟩ := h
      exact ⟨rfl, nothing⟩
    | claimDay c =>
      rcases r with err | _ | _
      · obtain rfl : t' = t := h
        exact ⟨rfl, nothing⟩
      · obtain ⟨-, rfl⟩ := h
        exact ⟨rfl, nothing⟩
      · obtain ⟨-, rfl⟩ := h
        exact ⟨rfl, nothing⟩
    | appendLog entry =>
      cases r with
      | error err =>
        obtain rfl : t' = t := h
        exact ⟨rfl, nothing⟩
      | ok a =>
        obtain rfl : t' = _ := h
        exact ⟨rfl, rfl⟩
    | saveConversation | recordMessage =>
      cases r with
      | error err =>
        obtain rfl : t' = t := h
        exact ⟨rfl, nothing⟩
      | ok a =>
        obtain rfl : t' = _ := h
        exact ⟨rfl, nothing⟩
    | channel | setting | send | http | pause | newLogId =>
      obtain rfl : t' = t := h
      exact ⟨rfl, nothing⟩
    | _ => exact absurd trivial reads

theorem Replies.loadsHeld (h : t.Replies x t') (key : ConversationKey) :
    LoadsHeld key (t.conversations.find? key) x := by
  rintro found rfl
  exact h.1

/-- What a history tells of one conversation. -/
theorem Serves.held (key : ConversationKey) : ∀ {t : Stores} {h : History}, t.Serves h t' →
    Along (heldAfter key) (LoadsHeld key) (t.conversations.find? key) h
      ∧ t'.conversations.find? key = h.foldl (heldAfter key) (t.conversations.find? key)
  | t, [], served => ⟨trivial, by rw [show t' = t from served]; rfl⟩
  | t, x :: h, ⟨u, hx, served⟩ => by
    obtain ⟨along, ends⟩ := served.held key
    have after : u.conversations.find? key = heldAfter key (t.conversations.find? key) x := by
      rw [hx.kept.1, find?_next]
    rw [after] at along ends
    exact ⟨⟨hx.loadsHeld key, along⟩, ends⟩

theorem Serves.log_eq : ∀ {t : Stores} {h : History}, t.Serves h t' →
    t'.log = t.log ++ h.filterMap logged?
  | t, [], served => by
    rw [show t' = t from served]
    exact (List.append_nil t.log).symm
  | t, x :: h, ⟨u, hx, served⟩ => by
    rw [served.log_eq, hx.kept.2, List.append_assoc, List.filterMap_cons]
    cases logged? x <;> rfl

/-- An entry that was taken stays in the log. -/
theorem Serves.mem_log {h : History} (served : t.Serves h t') {entry : LogEntry}
    (taken : ⟨.appendLog entry, .ok ()⟩ ∈ h) : entry ∈ t'.log := by
  rw [served.log_eq]
  exact List.mem_append_right _ (List.mem_filterMap.2 ⟨_, taken, rfl⟩)

/-- Stores load a conversation under its own key. -/
theorem Serves.keyed : ∀ {t : Stores} {h : History}, t.Serves h t' → ∀ x ∈ h, Keyed x
  | _, [], _, _, hx => nomatch hx
  | t, x :: h, ⟨u, hx, served⟩, y, hy => by
    rcases List.mem_cons.1 hy with rfl | hy
    · rintro key c rfl
      exact key_of_find? (hx.loadsHeld key _ rfl).symm
    · exact served.keyed y hy

end Stores

end Dialogue
