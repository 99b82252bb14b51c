import Dialogue.Proofs.Delivery.Holdings

/-!
# Deliveries can be split

The events of a delivery share the workflows that were found and the outcome so far, and nothing
else. Outcomes are merged associatively, and that of an ignored event changes nothing, so the events
of a delivery can be handled in two parts whose outcomes are merged afterwards
(`ServiceSettings.handleMessages_append`). The second part may as well be a delivery of its own, as
long as the workflows are the same when they are looked up again: this is so of any collaborators
(`ServiceSettings.handle_append`), and if the identifiers of log entries come out differently, then
they are all that differs (`ServiceSettings.handle_split`).
-/

namespace Dialogue

namespace DeliveryOutcome

theorem merge_ignored (a : DeliveryOutcome) : a.merge .ignored = a := by cases a <;> rfl

theorem merge_assoc (a b c : DeliveryOutcome) : (a.merge b).merge c = a.merge (b.merge c) := by
  cases a <;> cases b <;> cases c <;> rfl

end DeliveryOutcome

def Delivery.carrying (d : Delivery) (payload : Json) : Delivery := { d with payload := payload }

theorem DeliveryWork.run_of_bind_ok {α β σ : Type} {answer : Collaborators σ} {w : DeliveryWork α}
    {f : α → DeliveryWork β} {t t' : σ} {b : β}
    (ended : Program.run answer (w >>= f : DeliveryWork β) t = (.ok b, t')) :
    ∃ a t₁, Program.run answer w t = (.ok a, t₁) ∧ Program.run answer (f a) t₁ = (.ok b, t')
      ∧ Program.history answer (w >>= f : DeliveryWork β) t
        = Program.history answer w t ++ Program.history answer (f a) t₁ := by
  rw [bind_eq, Program.run_bind] at ended
  rw [bind_eq, Program.history_bind]
  rcases first : Program.run answer w t with ⟨_ | a, t₁⟩
  · rw [first] at ended
    cases ended
  · rw [first] at ended
    exact ⟨a, t₁, rfl, ended, rfl⟩

namespace ServiceSettings

open DeliveryWork

variable (s : ServiceSettings)

section Messages

variable (account : AccountId) (workflows : List Workflow) (receivedAt : Instant)

/-- Messages are handled after an outcome as they are handled after none. -/
theorem handleMessages_merge (before : DeliveryOutcome) : ∀ (messages : List Json)
    (outcome : DeliveryOutcome),
    s.handleMessages account workflows receivedAt messages (before.merge outcome)
      = (before.merge ·) <$> s.handleMessages account workflows receivedAt messages outcome
  | [], outcome => (map_pure _ _).symm
  | raw :: r, outcome => by
    simp only [handleMessages, map_bind, DeliveryOutcome.merge_assoc, handleMessages_merge]

theorem handleMessages_append (m₁ m₂ : List Json) :
    s.handleMessages account workflows receivedAt (m₁ ++ m₂) .ignored = (do
      let first ← s.handleMessages account workflows receivedAt m₁ .ignored
      let second ← s.handleMessages account workflows receivedAt m₂ .ignored
      pure (first.merge second)) := by
  have after (outcome : DeliveryOutcome) :
      s.handleMessages account workflows receivedAt (m₁ ++ m₂) outcome
        = s.handleMessages account workflows receivedAt m₁ outcome
          >>= s.handleMessages account workflows receivedAt m₂ := by
    induction m₁ generalizing outcome with
    | nil => exact (pure_bind _ _).symm
    | cons raw m₁ ih => simp only [List.cons_append, handleMessages, bind_assoc, ih]
  rw [after]
  -- The second part starts from the outcome of the first, and that outcome can be merged in last.
  refine congrArg (bind _) (funext fun first => ?_)
  have second := s.handleMessages_merge account workflows receivedAt first m₂ .ignored
  rw [DeliveryOutcome.merge_ignored] at second
  exact second.trans (bind_pure_comp _ _).symm

end Messages

/-! ## The workflows are looked up once more -/

section Unchanging

variable {σ : Type} {answer : Collaborators σ} {d : Delivery}
  {source : Except WorkflowError (List Workflow)}
  (unchanging : ∀ t, answer (.workflowsByToken d.account d.token) t = (source, t))
include unchanging

theorem run_handle (t : σ) :
    Program.run answer (s.handle d) t = Program.run answer (s.handleFound d source) t := by
  rw [run_handle_eq, unchanging]

theorem history_handle (t : σ) :
    Program.history answer (s.handle d) t = ⟨.workflowsByToken d.account d.token, source⟩
      :: Program.history answer (s.handleFound d source) t := by
  rw [history_handle_eq, unchanging]

/-- Whatever the collaborators: if a delivery was answered, so are its two parts one after the
other, and apart from the second look-up the same is asked and answered. -/
theorem handle_append {p₁ p₂ : Json}
    (split : InboundEvent.messages d.payload
      = InboundEvent.messages p₁ ++ InboundEvent.messages p₂)
    {t t' : σ} {outcome : DeliveryOutcome}
    (ended : Program.run answer (s.handle d) t = (.ok outcome, t')) :
    ∃ o₁ o₂ t₁ h, outcome = o₁.merge o₂
      ∧ Program.run answer (s.handle (d.carrying p₁)) t = (.ok o₁, t₁)
      ∧ Program.run answer (s.handle (d.carrying p₂)) t₁ = (.ok o₂, t')
      ∧ Program.history answer (s.handle (d.carrying p₂)) t₁
        = ⟨.workflowsByToken d.account d.token, source⟩ :: h
      ∧ Program.history answer (s.handle d) t
        = Program.history answer (s.handle (d.carrying p₁)) t ++ h := by
  rw [s.run_handle unchanging] at ended
  rcases source with err | _ | ⟨w, ws⟩
  · cases ended
  · cases ended
  have parts : s.handleFound d (.ok (w :: ws)) = (do
      let first ← s.handleFound (d.carrying p₁) (.ok (w :: ws))
      let second ← s.handleFound (d.carrying p₂) (.ok (w :: ws))
      pure (first.merge second)) := by
    refine Eq.trans ?_ (s.handleMessages_append d.account (w :: ws) d.receivedAt _ _)
    exact congrArg (s.handleMessages d.account (w :: ws) d.receivedAt · .ignored) split
  rw [parts] at ended
  obtain ⟨o₁, t₁, first, ended, asked⟩ := run_of_bind_ok ended
  obtain ⟨o₂, t₂, second, done, asked'⟩ := run_of_bind_ok ended
  obtain ⟨merged, last⟩ := Prod.mk.inj done
  obtain rfl : o₁.merge o₂ = outcome := Except.ok.inj merged
  obtain rfl : t₂ = t' := last
  refine ⟨o₁, o₂, t₁, _, rfl,
    (s.run_handle (d := d.carrying p₁) unchanging t).trans first,
    (s.run_handle (d := d.carrying p₂) unchanging t₁).trans second,
    s.history_handle (d := d.carrying p₂) unchanging t₁, ?_⟩
  rw [s.history_handle unchanging, s.history_handle (d := d.carrying p₁) unchanging,
    parts, asked, asked']
  exact congrArg (List.cons _ <| _ ++ ·) (List.append_nil _)

end Unchanging

end ServiceSettings

/-! ## Fresh identifiers -/

def Request.isSend : Request → Bool
  | .send _ _ _ => true
  | _ => false

/-- The messages that a history sends, with what was answered. -/
def sends (h : History) : History := h.filter fun x => x.1.isSend

theorem sends_append (h₁ h₂ : History) : sends (h₁ ++ h₂) = sends h₁ ++ sends h₂ :=
  List.filter_append _ _

/-- Runs that go the same way send the same. -/
theorem sends_of_paired {P : String → Prop} {sameIds : Prop} {h g : History}
    (paired : List.Forall₂ (Paired P sameIds) h g) : sends g = sends h := by
  induction paired with
  | nil => rfl
  | cons here _ ih =>
    unfold sends at ih ⊢
    cases here with
    | same => simp only [List.filter_cons, ih]
    | newLogId => exact ih
    | appendLog => exact ih

/-- The holdings are the same but for the identifiers of log entries. -/
abbrev Holdings.SameButIds {τ : Type} (t u : Holdings τ) : Prop :=
  Holdings.Agree (fun _ => True) False t u

/-- Take a delivery whose messages are those of one payload and then those of another, and
collaborators whose workflows do not change. If the delivery is answered, then so are the two
payloads, delivered one after the other, from holdings that are the same but for the identifiers of
log entries. The outcomes merge to that of the whole delivery, everything that is held afterwards is
the same but for the identifiers of log entries, and the same messages are sent in the same
order. -/
theorem ServiceSettings.handle_split {τ : Type} (s : ServiceSettings) (d : Delivery)
    (p₁ p₂ : Json) (split : InboundEvent.messages d.payload
      = InboundEvent.messages p₁ ++ InboundEvent.messages p₂)
    (others : Collaborators τ) {source : Except WorkflowError (List Workflow)}
    (unchanging : ∀ rest, others (.workflowsByToken d.account d.token) rest = (source, rest))
    {t u : Holdings τ} (same : t.SameButIds u) {outcome : DeliveryOutcome}
    (answered : (Program.run (Holdings.answer others) (s.handle d) t).1 = .ok outcome) :
    let answer := Holdings.answer others
    let whole := Program.run answer (s.handle d) t
    let first := Program.run answer (s.handle (d.carrying p₁)) u
    let second := Program.run answer (s.handle (d.carrying p₂)) first.2
    (∃ o₁ o₂, first.1 = .ok o₁ ∧ second.1 = .ok o₂ ∧ outcome = o₁.merge o₂)
    ∧ whole.2.SameButIds second.2
    ∧ sends (Program.history answer (s.handle d) t)
      = sends (Program.history answer (s.handle (d.carrying p₁)) u)
        ++ sends (Program.history answer (s.handle (d.carrying p₂)) first.2) := by
  intro answer whole first second
  have unchanged : ∀ t, answer (.workflowsByToken d.account d.token) t = (source, t) := by
    intro t
    show ((others _ t.rest).1, { t with rest := (others _ t.rest).2 }) = _
    rw [unchanging]
  -- Split the delivery where it is, from `t`; then take each part to where `u` leads.
  obtain ⟨o₁, o₂, t₁, h, merged, ended₁, ended₂, lookedUp, asked⟩ :=
    s.handle_append unchanged split (t := t) (Prod.ext answered rfl)
  have anyone (payload : Json) :
      SteadyWork (fun _ => True) False (s.handle (d.carrying payload)) fun _ => True :=
    s.steady_handle (d.carrying payload) fun _ _ _ _ => trivial
  obtain ⟨told₁, paired₁, same₁, -⟩ := Holdings.run_of_steady others (anyone p₁) same
  rw [ended₁] at told₁ same₁
  obtain ⟨told₂, paired₂, same₂, -⟩ := Holdings.run_of_steady others (anyone p₂) same₁
  rw [ended₂] at told₂ same₂
  refine ⟨⟨o₁, o₂, told₁, told₂, merged⟩, same₂, ?_⟩
  rw [sends_of_paired paired₁, sends_of_paired paired₂, lookedUp, asked]
  exact sends_append _ _

namespace ServiceSettings

/-! Two replies to one workflow, in one delivery and in two. -/

namespace SharedToken

/-- A rehearsed service whose workflows do not change. -/
def rehearsed : Collaborators World
  | .workflowsByToken _ _, w => (.ok [taker, owner], w)
  | r, w => World.answer moment r w

/-- Nothing but identifiers, which the salt tells apart. -/
def blank (salt : Nat) : Holdings World :=
  ⟨[], [], [], fun n => ⟨.ofParts salt n⟩, world "wamid.1"⟩

/-- Messages that quote the identifiers. -/
def replies (messageIds : List String) : Delivery :=
  ⟨account, "token", .obj [("messages", .arr (messageIds.map message))], moment⟩

def together : Except DeliveryError DeliveryOutcome × Holdings World :=
  Program.run (Holdings.answer rehearsed) (settings.handle (replies ["wamid.2", "wamid.3"]))
    (blank 0)

def earlier : Except DeliveryError DeliveryOutcome × Holdings World :=
  Program.run (Holdings.answer rehearsed) (settings.handle (replies ["wamid.2"])) (blank 1)

def later : Except DeliveryError DeliveryOutcome × Holdings World :=
  Program.run (Holdings.answer rehearsed) (settings.handle (replies ["wamid.3"])) earlier.2

end SharedToken

open SharedToken in
/-- Both replies are taken, and the identifiers of the two log entries tell the runs apart. -/
theorem handle_split_twoReplies : together.1 = .ok .ok
    ∧ (∃ o₁ o₂, earlier.1 = .ok o₁ ∧ later.1 = .ok o₂ ∧ DeliveryOutcome.ok = o₁.merge o₂)
    ∧ together.2.SameButIds later.2
    ∧ together.2.logs.length = 2 ∧ together.2.logs ≠ later.2.logs := by
  have same : (blank 0).SameButIds (blank 1) :=
    ⟨fun _ _ => rfl, fun _ _ => .rfl, .nil, False.elim, rfl⟩
  have answered : together.1 = .ok .ok := by decide +kernel
  have logged : together.2.logs.length = 2 ∧ together.2.logs ≠ later.2.logs := by decide +kernel
  obtain ⟨ended, held, -⟩ := handle_split settings (replies ["wamid.2", "wamid.3"])
    (replies ["wamid.2"]).payload (replies ["wamid.3"]).payload rfl rehearsed (fun _ => rfl) same
    answered
  exact ⟨answered, ended, held, logged⟩

end ServiceSettings

end Dialogue
