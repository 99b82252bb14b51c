import Dialogue.Proofs.Delivery.Steady

/-!
# Stores beside other collaborators

The conversations, the claims of days and the log are held in tables. Everything else, the records
of messages and the appointments among it, is left to collaborators that answer from what they hold;
they also say which calls to the tables fail, and are not told the identifiers of log entries.

Two collections of holdings agree on participants of a kind if they differ in the conversations and
the claims of other participants at most (`Holdings.Agree`). Two runs of a delivery to participants
of the kind then go the same way, leave holdings that agree, and spare what belongs to others
(`Holdings.run_of_steady`).
-/

namespace Dialogue

/-- What the collaborators of a service hold. -/
structure Holdings (τ : Type) where
  conversations : ConversationTable
  claims : List DayClaim
  logs : List LogEntry
  ids : Nat → ExecutionLogId
  rest : τ

/-- Collaborators that answer from what they hold. -/
abbrev Collaborators (τ : Type) : Type := (r : Request) → τ → r.Answer × τ

namespace Holdings

variable {τ : Type}

def answer (others : Collaborators τ) : Collaborators (Holdings τ)
  | .loadConversation key, t =>
    let (called, rest) := others (.loadConversation key) t.rest
    (called.map fun _ => t.conversations.find? key, { t with rest })
  | .saveConversation c, t =>
    match others (.saveConversation c) t.rest with
    | (.ok _, rest) => (.ok (), { t with conversations := t.conversations.save c, rest })
    | (.error err, rest) => (.error err, { t with rest })
  | .claimDay c, t =>
    match others (.claimDay c) t.rest with
    | (.ok _, rest) =>
      if c ∈ t.claims then (.ok false, { t with rest })
      else (.ok true, { t with claims := t.claims ++ [c], rest })
    | (.error err, rest) => (.error err, { t with rest })
  | .appendLog entry, t =>
    match others (.appendLog { entry with id := default }) t.rest with
    | (.ok _, rest) => (.ok (), { t with logs := t.logs ++ [entry], rest })
    | (.error err, rest) => (.error err, { t with rest })
  | .newLogId, t => (t.ids 0, { t with ids := fun n => t.ids (n + 1) })
  | r, t =>
    let (called, rest) := others r t.rest
    (called, { t with rest })

/-- The holdings are the same but for the conversations and the claims of participants that are not
of a kind, and perhaps for the identifiers of log entries. -/
structure Agree (P : String → Prop) (sameIds : Prop) (t u : Holdings τ) : Prop where
  conversations : ∀ key, P key.phone → u.conversations.find? key = t.conversations.find? key
  claims : ∀ c, P c.phone → (c ∈ u.claims ↔ c ∈ t.claims)
  logs : List.Forall₂ (fun a b => (sameIds → a.id = b.id) ∧ { a with id := b.id } = b)
    t.logs u.logs
  ids : sameIds → t.ids = u.ids
  rest : u.rest = t.rest

/-- The conversations and the claims of participants that are not of a kind stay as they are. -/
structure Spared (P : String → Prop) (t u : Holdings τ) : Prop where
  conversations : ∀ key, ¬ P key.phone → u.conversations.find? key = t.conversations.find? key
  claims : ∀ c, ¬ P c.phone → (c ∈ u.claims ↔ c ∈ t.claims)

variable {P : String → Prop} {sameIds : Prop} {others : Collaborators τ} {t u v : Holdings τ}

theorem Spared.refl : Spared P t t := ⟨fun _ _ => rfl, fun _ _ => .rfl⟩

theorem Spared.trans (first : Spared P t u) (second : Spared P u v) : Spared P t v where
  conversations key h := (second.conversations key h).trans (first.conversations key h)
  claims c h := (second.claims c h).trans (first.claims c h)

/-- Nothing that a request does to conversations and claims is about others than it concerns. -/
theorem spared_answer {i : Request} (own : i.Concerns P) : Spared P t (answer others i t).2 := by
  cases i with
  | saveConversation c =>
    dsimp only [answer]
    split
    · refine ⟨fun key other => ?_, fun _ _ => .rfl⟩
      refine ConversationTable.find?_save_of_ne _ fun same => other ?_
      rw [same]
      exact own
    · exact ⟨fun _ _ => rfl, fun _ _ => .rfl⟩
  | claimDay c =>
    dsimp only [answer]
    split
    · split
      · exact ⟨fun _ _ => rfl, fun _ _ => .rfl⟩
      · refine ⟨fun _ _ => rfl, fun d other => ?_⟩
        have differ : d ≠ c := fun same => other (same ▸ own)
        simp [differ]
    · exact ⟨fun _ _ => rfl, fun _ _ => .rfl⟩
  | appendLog entry =>
    dsimp only [answer]
    split <;> exact ⟨fun _ _ => rfl, fun _ _ => .rfl⟩
  | _ => exact ⟨fun _ _ => rfl, fun _ _ => .rfl⟩

/-- What is loaded is the conversation that was asked for. -/
theorem loadsOf_answer {i : Request} (own : i.Concerns P) :
    LoadsOf P ⟨i, (answer others i t).1⟩ := by
  cases i with
  | loadConversation key =>
    dsimp only [answer]
    cases (others (.loadConversation key) t.rest).1 with
    | error err => trivial
    | ok called =>
      cases found : t.conversations.find? key with
      | none => trivial
      | some c =>
        have same : c.key = key := ConversationTable.key_of_find? found
        have phone : c.phone = key.phone := congrArg ConversationKey.phone same
        show P c.phone
        rw [phone]
        exact own
  | _ => trivial

variable (others)

/-- Where holdings agree, a request of a participant of the kind is answered the same, and they
agree afterwards. -/
theorem Agree.answer {i : Request} (agree : Agree P sameIds t u) (confined : i.Confined P) :
    (Holdings.answer others i u).1 = (Holdings.answer others i t).1
      ∧ Agree P sameIds (Holdings.answer others i t).2 (Holdings.answer others i u).2 := by
  have rest := agree.rest
  cases i with
  | loadConversation key =>
    dsimp only [Holdings.answer]
    rw [rest, agree.conversations key confined.1]
    exact ⟨rfl, { agree with rest := rfl }⟩
  | saveConversation c =>
    dsimp only [Holdings.answer]
    rw [rest]
    split
    · refine ⟨rfl, { agree with rest := rfl, conversations := fun key own => ?_ }⟩
      by_cases same : key = c.key
      · rw [same, ConversationTable.find?_save_self, ConversationTable.find?_save_self]
      · rw [ConversationTable.find?_save_of_ne _ same, ConversationTable.find?_save_of_ne _ same]
        exact agree.conversations key own
    · exact ⟨rfl, { agree with rest := rfl }⟩
  | claimDay c =>
    dsimp only [Holdings.answer]
    rw [rest]
    split
    · have claims := agree.claims c confined.1
      by_cases claimed : c ∈ t.claims
      · rw [if_pos claimed, if_pos (claims.2 claimed)]
        exact ⟨rfl, { agree with rest := rfl }⟩
      · rw [if_neg claimed, if_neg fun h => claimed (claims.1 h)]
        refine ⟨rfl, { agree with rest := rfl, claims := fun d own => ?_ }⟩
        simp [agree.claims d own]
    · exact ⟨rfl, { agree with rest := rfl }⟩
  | newLogId | appendLog => exact absurd trivial confined.2
  | _ =>
    dsimp only [Holdings.answer]
    rw [rest]
    exact ⟨rfl, { agree with rest := rfl }⟩

theorem Agree.appendLog {entry : LogEntry} {id : ExecutionLogId} (agree : Agree P sameIds t u)
    (ids : sameIds → entry.id = id) :
    (Holdings.answer others (.appendLog { entry with id := id }) u).1
        = (Holdings.answer others (.appendLog entry) t).1
      ∧ Agree P sameIds (Holdings.answer others (.appendLog entry) t).2
        (Holdings.answer others (.appendLog { entry with id := id }) u).2 := by
  dsimp only [Holdings.answer]
  rw [agree.rest]
  split
  · refine ⟨rfl, { agree with rest := rfl, logs := ?_ }⟩
    exact List.rel_append agree.logs (.cons ⟨ids, rfl⟩ .nil)
  · exact ⟨rfl, { agree with rest := rfl }⟩

/-- Holdings that agree answer requests of runs that go the same way by pairs. -/
theorem Agree.paired {i j : Request} (agree : Agree P sameIds t u)
    (asked : ∃ r s, Paired P sameIds ⟨i, r⟩ ⟨j, s⟩) :
    Paired P sameIds ⟨i, (Holdings.answer others i t).1⟩ ⟨j, (Holdings.answer others j u).1⟩
      ∧ Agree P sameIds (Holdings.answer others i t).2 (Holdings.answer others j u).2 := by
  obtain ⟨r, s, paired⟩ := asked
  -- The answers of `asked` are any pair; those of the holdings are a pair of the same kind.
  generalize hx : (⟨i, r⟩ : Exchange Request.Answer) = x at paired
  generalize hy : (⟨j, s⟩ : Exchange Request.Answer) = y at paired
  cases paired with
  | same confined =>
    subst hx
    obtain rfl : j = i := congrArg Sigma.fst hy
    obtain ⟨told, next⟩ := agree.answer others confined
    rw [told]
    exact ⟨.same confined (loadsOf_answer confined.1), next⟩
  | newLogId =>
    cases hx
    cases hy
    refine ⟨.newLogId fun same => congrFun (agree.ids same) 0, { agree with ids := fun same => ?_ }⟩
    exact funext fun n => congrFun (agree.ids same) (n + 1)
  | appendLog own ids =>
    cases hx
    cases hy
    obtain ⟨told, next⟩ := agree.appendLog others ids
    rw [told]
    exact ⟨.appendLog own ids, next⟩

/-- Two runs of a program that go the same way, from holdings that agree on the participants it
concerns: their results are the same, their histories are paired, the holdings agree afterwards,
and others are spared. -/
theorem run_of_steady {α : Type} {p : Service α} {post : α → Prop}
    (steady : Steady P sameIds p post) (agree : Agree P sameIds t u) :
    (p.run (answer others) u).1 = (p.run (answer others) t).1
      ∧ List.Forall₂ (Paired P sameIds) (p.history (answer others) t) (p.history (answer others) u)
      ∧ Agree P sameIds (p.run (answer others) t).2 (p.run (answer others) u).2
      ∧ Spared P t (p.run (answer others) t).2 ∧ Spared P u (p.run (answer others) u).2 := by
  -- The invariant of the two runs: the holdings agree, and neither run has touched what is others'.
  let alike (t' u' : Holdings τ) : Prop := Agree P sameIds t' u' ∧ Spared P t t' ∧ Spared P u u'
  have step (i j : Request) (t' u' : Holdings τ)
      (asked : ∃ r s, Paired P sameIds ⟨i, r⟩ ⟨j, s⟩) (same : alike t' u') :
      Paired P sameIds ⟨i, (answer others i t').1⟩ ⟨j, (answer others j u').1⟩
        ∧ alike (answer others i t').2 (answer others j u').2 := by
    obtain ⟨agree, sparedLeft, sparedRight⟩ := same
    obtain ⟨here, next⟩ := agree.paired others asked
    obtain ⟨left, right⟩ := here.concerns
    exact ⟨here, next, sparedLeft.trans (spared_answer left),
      sparedRight.trans (spared_answer right)⟩
  obtain ⟨⟨same, -⟩, ⟨agree, left, right⟩, paired⟩ :=
    Program.Coupled.run step steady ⟨agree, .refl, .refl⟩
  exact ⟨same, paired, agree, left, right⟩

end Holdings

end Dialogue
