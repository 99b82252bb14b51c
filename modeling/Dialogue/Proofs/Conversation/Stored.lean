import Dialogue.Proofs.History
import Dialogue.Service.Request

/-!
# What is stored after a history

A history changes the conversations that are stored by what it saves. A store is faithful in a
history if it never fails and loads what is stored. After a history that saves under a key, what is
stored under it is what was saved last, so it is what holds of everything that was saved there
(`stored_of_saves`).
-/

namespace Dialogue

namespace ConversationTable

theorem key_of_find? {t : ConversationTable} {key : ConversationKey} {c : Conversation}
    (h : t.find? key = some c) : c.key = key := by
  simpa using List.find?_some h

/-- What is stored after an exchange. -/
def next (t : ConversationTable) : Exchange Request.Answer → ConversationTable
  | ⟨.saveConversation c, .ok _⟩ => t.save c
  | _ => t

/-- What is stored after a history. -/
def stored (t : ConversationTable) (h : List (Exchange Request.Answer)) : ConversationTable :=
  h.foldl next t

/-- The store answers without failure and by what it holds. -/
def Answers (t : ConversationTable) : Exchange Request.Answer → Prop
  | ⟨.loadConversation key, r⟩ => r = .ok (t.find? key)
  | ⟨.saveConversation _, r⟩ => r = .ok ()
  | _ => True

/-- The store answers so all along a history. -/
def Faithful (t : ConversationTable) : List (Exchange Request.Answer) → Prop
  | [] => True
  | x :: h => t.Answers x ∧ (t.next x).Faithful h

theorem stored_cons (t : ConversationTable) (x : Exchange Request.Answer)
    (h : List (Exchange Request.Answer)) : t.stored (x :: h) = (t.next x).stored h := rfl

theorem stored_append (t : ConversationTable) (h₁ h₂ : List (Exchange Request.Answer)) :
    t.stored (h₁ ++ h₂) = (t.stored h₁).stored h₂ := List.foldl_append

theorem faithful_append : ∀ {t : ConversationTable} {h₁ h₂ : List (Exchange Request.Answer)},
    t.Faithful (h₁ ++ h₂) ↔ t.Faithful h₁ ∧ (t.stored h₁).Faithful h₂
  | _, [], _ => (true_and _).symm.to_iff
  | t, x :: h₁, h₂ => by
    show _ ∧ (t.next x).Faithful (h₁ ++ h₂) ↔ (_ ∧ _) ∧ _
    rw [faithful_append, and_assoc]
    rfl

/-- The exchange is one of saving a conversation. -/
def Saves (x : Exchange Request.Answer) : Prop := ∃ c, x.1 = .saveConversation c

theorem next_of_not_saves {t : ConversationTable} {x : Exchange Request.Answer}
    (h : ¬ Saves x) : t.next x = t := by
  obtain ⟨q, r⟩ := x
  cases q with
  | saveConversation c => exact absurd ⟨c, rfl⟩ h
  | _ => rfl

theorem stored_of_not_saves : ∀ {t : ConversationTable} {h : List (Exchange Request.Answer)},
    (∀ x ∈ h, ¬ Saves x) → t.stored h = t
  | _, [], _ => rfl
  | t, x :: h, hs => by
    rw [stored_cons, next_of_not_saves (hs x List.mem_cons_self),
      stored_of_not_saves fun y hy => hs y (List.mem_cons_of_mem x hy)]

/-- Whatever a history saves is one of some conversations of a key. -/
def SavesOnly (key : ConversationKey) (kind : Conversation → Prop)
    (x : Exchange Request.Answer) : Prop :=
  ∀ c, x.1 = .saveConversation c → c.key = key ∧ kind c

variable {key : ConversationKey} {kind : Conversation → Prop}

theorem find?_next_of_savesOnly {t : ConversationTable} {x : Exchange Request.Answer}
    (hx : SavesOnly key kind x) (ht : ∃ c, t.find? key = some c ∧ kind c) :
    ∃ c, (t.next x).find? key = some c ∧ kind c := by
  obtain ⟨q, r⟩ := x
  cases q with
  | saveConversation c =>
    obtain ⟨rfl, hc⟩ := hx c rfl
    cases r with
    | ok u => exact ⟨c, find?_save_self t c, hc⟩
    | error e => exact ht
  | _ => exact ht

theorem find?_stored_of_savesOnly : ∀ {t : ConversationTable}
    {h : List (Exchange Request.Answer)}, (∀ x ∈ h, SavesOnly key kind x) →
      (∃ c, t.find? key = some c ∧ kind c) → ∃ c, (t.stored h).find? key = some c ∧ kind c
  | _, [], _, ht => ht
  | t, x :: h, hs, ht => by
    rw [stored_cons]
    exact find?_stored_of_savesOnly (fun y hy => hs y (List.mem_cons_of_mem x hy))
      (find?_next_of_savesOnly (hs x List.mem_cons_self) ht)

/-- A faithful history that saves something leaves what it saved last. -/
theorem stored_of_saves {t : ConversationTable} {h : List (Exchange Request.Answer)}
    (faithful : t.Faithful h) (hs : ∀ x ∈ h, SavesOnly key kind x)
    (save : ∃ x ∈ h, Saves x) : ∃ c, (t.stored h).find? key = some c ∧ kind c := by
  induction h generalizing t with
  | nil =>
    obtain ⟨x, hx, -⟩ := save
    cases hx
  | cons x h ih =>
    obtain ⟨answers, faithful⟩ := faithful
    have hrest := fun z hz => hs z (List.mem_cons_of_mem x hz)
    rw [stored_cons]
    obtain ⟨y, hy, c, hc⟩ := save
    rcases List.mem_cons.1 hy with rfl | hy
    · obtain ⟨rfl, kc⟩ := hs y List.mem_cons_self c hc
      refine find?_stored_of_savesOnly hrest ⟨c, ?_, kc⟩
      obtain ⟨q, r⟩ := y
      subst hc
      obtain rfl : r = .ok () := answers
      exact find?_save_self t c
    · exact ih faithful hrest ⟨y, hy, c, hc⟩

end ConversationTable

end Dialogue
