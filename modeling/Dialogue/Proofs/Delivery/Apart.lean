import Dialogue.Proofs.Delivery.Holdings

/-!
# Participants are kept apart

What is held of other participants, their conversations with every workflow and the days they
claimed, neither changes what is done for a participant nor is changed by it: two runs for one
participant, from holdings that differ in nothing else, are the same run (`Holdings.run_apart`). So
it is for an event (`ServiceSettings.handleEvent_apart`), and for a delivery whose events are all of
one participant (`ServiceSettings.handle_apart`).
-/

namespace Dialogue

namespace Holdings

variable {τ : Type} {phone : String} {t u : Holdings τ} (others : Collaborators τ)

/-- The holdings differ in the conversations and claims of other participants at most. -/
abbrev SameFor (phone : String) (t u : Holdings τ) : Prop := Agree (· = phone) True t u

/-- The conversations and claims of other participants stay exactly as they are. -/
abbrev SparesOthers (phone : String) (t u : Holdings τ) : Prop := Spared (· = phone) t u

/-- Two runs from the same holdings of a participant are the same run. -/
theorem run_apart {α : Type} {p : Service α} {post : α → Prop}
    (steady : Steady (· = phone) True p post) (same : SameFor phone t u) :
    let first := p.run (answer others) t
    let second := p.run (answer others) u
    let h := p.history (answer others) t
    second.1 = first.1
    ∧ p.history (answer others) u = h
    ∧ (∀ x ∈ h, x.1.Concerns (· = phone))
    ∧ SameFor phone first.2 second.2
    ∧ SparesOthers phone t first.2 ∧ SparesOthers phone u second.2 := by
  intro first second h
  -- Where identifiers have to be the same, histories that are paired are equal.
  obtain ⟨ended, paired, agree, left, right⟩ := run_of_steady others steady same
  have equal : p.history (answer others) u = h := by
    have step : List.Forall₂ (fun x y => y = x) h (p.history (answer others) u) :=
      paired.imp fun _ _ hxy => hxy.eq_of_sameIds
    exact (List.forall₂_eq_eq_eq ▸ step.flip :)
  refine ⟨ended, equal, fun x hx => ?_, agree, left, right⟩
  rw [equal] at paired
  have own : List.Forall₂ (fun x _ => Request.Concerns (· = phone) x.1) h h :=
    paired.imp fun _ _ hxy => hxy.concerns.1
  exact List.forall₂_same.1 own x hx

end Holdings

namespace ServiceSettings

variable {τ : Type} (s : ServiceSettings) (others : Collaborators τ) {phone : String}
  {t u : Holdings τ}

/-- Take an event of a participant, and two collections of holdings that are the same but for the
conversations and claims of other participants. The event has the same outcome in both, exactly the
same is asked and answered, so the same messages are sent in the same order, and all that is asked
concerns the participant, so they are sent to them. What is held of the participant is the same
again afterwards, and what is held of others stays as it was. -/
theorem handleEvent_apart (account : AccountId) (workflows : List Workflow) (raw : Json)
    (now : Instant) (event : InboundEvent) (sender : event.phone? = some phone)
    (same : Holdings.SameFor phone t u) :
    let handling := s.handleEvent account workflows raw now event
    let first := Program.run (Holdings.answer others) handling t
    let second := Program.run (Holdings.answer others) handling u
    let h := Program.history (Holdings.answer others) handling t
    second.1 = first.1
    ∧ Program.history (Holdings.answer others) handling u = h
    ∧ (∀ x ∈ h, x.1.Concerns (· = phone))
    ∧ Holdings.SameFor phone first.2 second.2
    ∧ Holdings.SparesOthers phone t first.2 ∧ Holdings.SparesOthers phone u second.2 := by
  have own : ∀ p, event.phone? = some p → p = phone :=
    fun _ hp => Option.some.inj (hp.symm.trans sender)
  exact Holdings.run_apart others (s.steady_handleEvent account workflows raw now own) same

/-- The same holds of a delivery whose events are all of one participant. -/
theorem handle_apart (d : Delivery) (sender : ∀ raw ∈ InboundEvent.messages d.payload, ∀ p,
      (InboundEvent.ofJson raw d.receivedAt).phone? = some p → p = phone)
    (same : Holdings.SameFor phone t u) :
    let first := Program.run (Holdings.answer others) (s.handle d) t
    let second := Program.run (Holdings.answer others) (s.handle d) u
    let h := Program.history (Holdings.answer others) (s.handle d) t
    second.1 = first.1
    ∧ Program.history (Holdings.answer others) (s.handle d) u = h
    ∧ (∀ x ∈ h, x.1.Concerns (· = phone))
    ∧ Holdings.SameFor phone first.2 second.2
    ∧ Holdings.SparesOthers phone t first.2 ∧ Holdings.SparesOthers phone u second.2 :=
  Holdings.run_apart others (s.steady_handle d sender) same

/-! Two participants of one workflow. One presses a button; the other's conversation with the same
workflow is there or not. -/

namespace SharedToken

/-- Holdings beside a rehearsed service, with what another participant has. -/
def held (conversations : ConversationTable) (claims : List DayClaim) : Holdings World :=
  ⟨conversations, claims, [], fun n => ⟨.ofParts 0 n⟩, world "wamid.1"⟩

/-- A conversation of another participant with the workflow that takes the reply. -/
def neighbour : Conversation :=
  (Conversation.new taker.id "919800000002" moment).advanceTo "menu" moment

end SharedToken

open SharedToken in
theorem handleEvent_apart_neighbour :
    let pressed := InboundEvent.ofJson (message "wamid.2") moment
    let handling := settings.handleEvent account [taker, owner] (message "wamid.2") moment pressed
    let alone := Program.run (Holdings.answer (World.answer moment)) handling (held [] [])
    let beside := Program.run (Holdings.answer (World.answer moment)) handling
      (held [neighbour] [⟨account, "919800000002", moment.date⟩])
    alone.1 = .ok .ok ∧ beside.1 = .ok .ok ∧ alone.2.rest.sent.length = 1
    ∧ beside.2.conversations.find? neighbour.key = some neighbour := by
  intro pressed handling alone beside
  have same : Holdings.SameFor "919800000001" (held [] [])
      (held [neighbour] [⟨account, "919800000002", moment.date⟩]) := by
    refine ⟨fun key own => ?_, fun c own => ?_, .nil, fun _ => rfl, rfl⟩
    · refine List.find?_eq_none.2 fun c hc => ?_
      rw [List.mem_singleton.1 hc, beq_iff_eq]
      rintro rfl
      exact absurd own (by decide)
    · refine iff_of_false (fun hc => ?_) List.not_mem_nil
      rw [List.mem_singleton.1 hc] at own
      exact absurd own (by decide)
  obtain ⟨ended, -, -, -, -, spared⟩ := handleEvent_apart settings (World.answer moment) account
    [taker, owner] (message "wamid.2") moment pressed rfl same
  have taken : alone.1 = .ok .ok := rfl
  refine ⟨taken, ended.trans taken, rfl, ?_⟩
  exact spared.conversations neighbour.key (by decide)

end ServiceSettings

end Dialogue
