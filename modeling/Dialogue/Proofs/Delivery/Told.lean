import Dialogue.Proofs.Delivery.AfterBooking
import Dialogue.Proofs.Delivery.Logged

/-!
# What a participant is told of a booking's step

Work tells messages if the messaging client accepts these and no others of it, in order, and all of
them unless the work fails. Delivering a step tells the messages of the step
(`ChainScope.tells_deliverStep`), so a chain that starts with a step at a node of the graph tells
them before anything else. The node is looked up in the graph as it is now. If it is gone, the chain
sends nothing and ends well, and its entry in the log tells of success, whatever the step was
about (`EventScope.told_iff`).
-/

namespace Dialogue

/-- The messages that were accepted in a history. -/
def told (h : List (Exchange Request.Answer)) : List OutboundMessage :=
  (accepted h).map (·.message)

theorem told_append (h₁ h₂ : List (Exchange Request.Answer)) :
    told (h₁ ++ h₂) = told h₁ ++ told h₂ := by
  unfold told
  rw [accepted_append, List.map_append]

/-- The messages of a step, as they are sent. -/
def FlowStep.outbound (step : FlowStep) : List OutboundMessage :=
  step.messages.map FlowMessage.outbound

namespace ChainScope

open ChainWork

/-- The client accepts the first of these messages, in order and no others, and all of them unless
the work fails. -/
def Tells (messages : List OutboundMessage) (w : ChainWork α) : Prop :=
  ∀ s h r, (w s).Runs h r → told h <+: messages ∧ ∀ a, r.1 = .ok a → told h = messages

variable {e : ChainScope} {α β : Type} {l m : List OutboundMessage} {w : ChainWork α}
  {f : α → ChainWork β}

theorem tells_nil (h : ∀ s h r, (w s).Runs h r → told h = []) : Tells [] w :=
  fun s g r run => ⟨(h s g r run).symm ▸ List.nil_prefix, fun _ _ => h s g r run⟩

theorem tells_of_silent {P : List SentResponse → α → Prop}
    (hw : ∀ responses, (silent responses).Keeps w (P responses)) : Tells [] w :=
  tells_nil fun s h r run =>
    congrArg (List.map _) (accepted_of_silent (hw s.responses s rfl h r run).1)

theorem tells_pure {a : α} : Tells [] (pure a) :=
  tells_of_silent (P := fun _ _ => True) fun _ => .pure trivial

/-- The second part is told of only behind all that the first part tells. -/
theorem Tells.bind (hw : Tells l w) (hf : ∀ a, Tells m (f a)) : Tells (l ++ m) (w >>= f) := by
  intro s h r run
  rw [Work.bind_apply] at run
  obtain ⟨h₁, ⟨a | a, t⟩, h₂, rfl, run₁, run₂⟩ := Program.runs_bind.1 run
  · obtain ⟨rfl, rfl⟩ := run₂
    rw [List.append_nil]
    refine ⟨(hw s h₁ _ run₁).1.trans (List.prefix_append l m), ?_⟩
    rintro b ⟨⟩
  · have first : told h₁ = l := (hw s h₁ _ run₁).2 a rfl
    obtain ⟨starts, all⟩ := hf a t h₂ r run₂
    rw [told_append, first]
    exact ⟨(List.prefix_append_right_inj l).2 starts, fun b hb => congrArg (l ++ ·) (all b hb)⟩

theorem tells_deliver (node : Node) (message : OutboundMessage) :
    Tells [message] (e.deliver node message) := by
  unfold deliver send
  simp only [bind_assoc, pure_bind]
  refine (tells_of_silent silent_pace).bind (m := [message]) fun _ => ?_
  refine (tells_of_silent silent_token).bind (m := [message]) fun token => ?_
  intro s h r run
  rcases runs_send_bind run with ⟨messageId, h, rfl, rest⟩ | ⟨err, rfl, rfl⟩
  · have only : told (⟨.send token e.facts.phone message, .ok messageId⟩ :: h) = [message] := by
      rw [Work.modify_bind_apply] at rest
      split at rest
      · obtain ⟨answer, h, rfl, rfl, rfl⟩ := rest
        rfl
      · obtain ⟨rfl, rfl⟩ := rest
        rfl
    exact ⟨only.symm ▸ List.prefix_rfl, fun _ _ => only⟩
  · refine ⟨List.nil_prefix, ?_⟩
    rintro a ⟨⟩

theorem tells_deliverAll (node : Node) : ∀ messages : List OutboundMessage,
    Tells messages (e.deliverAll node messages)
  | [] => tells_pure
  | m :: r => (tells_deliver node m).bind fun _ => tells_deliverAll node r

theorem tells_saveAt (node : Node) : Tells [] (e.saveAt node) := by
  refine tells_nil ?_
  rintro s _ r ⟨answer, h, rfl, rfl, rfl⟩
  rfl

theorem tells_deliverStep (node : Node) (step : FlowStep) :
    Tells step.outbound (e.deliverStep node step) := by
  have sent : Tells (step.outbound ++ []) (do
      e.deliverAll node step.outbound
      pure (e.transitionTarget? node step.transition)) :=
    (tells_deliverAll node _).bind fun _ => tells_pure
  rw [List.append_nil] at sent
  exact (tells_saveAt node).bind fun _ => sent

/-! ## A chain that starts with a step -/

variable {c d : Conversation} {id : NodeId} {step : FlowStep}

/-- The chain sends the messages of the step before any other. -/
theorem told_of_runs_run {node : Node} {report : ChainReport}
    {h : List (Exchange Request.Answer)} (found : e.workflow.graph.node? id = some node)
    (run : (e.run c (.flowStep id step)).Runs h (report, d)) :
    (told h <+: step.outbound ∨ step.outbound <+: told h)
      ∧ (report.error = none → step.outbound <+: told h) := by
  obtain ⟨h, ⟨r, s⟩, g, rfl, driven, rfl, ended⟩ := Program.runs_bind.1 run
  cases ended
  rw [List.append_nil]
  dsimp only [drive] at driven
  rw [found] at driven
  dsimp only at driven
  rw [Work.bind_apply] at driven
  obtain ⟨h₁, ⟨a, t⟩, h₂, rfl, delivered, walked⟩ := Program.runs_bind.1 driven
  obtain ⟨starts, all⟩ := tells_deliverStep node step _ h₁ _ delivered
  rw [told_append]
  cases a with
  | error err =>
    obtain ⟨rfl, hr⟩ := walked
    cases hr
    refine ⟨.inl ?_, fun clean => by cases clean⟩
    rw [show told [] = [] from rfl, List.append_nil]
    exact starts
  | ok next =>
    have first : step.outbound <+: told h₁ ++ told h₂ := by
      rw [all next rfl]
      exact List.prefix_append _ _
    exact ⟨.inr first, fun _ => first⟩

end ChainScope

namespace EventScope

variable (e : EventScope) {w : Workflow} {c : Conversation} {id : NodeId} {step : FlowStep}

/-- A chain that starts with the step of a booking sends the messages of the step in order and
before any others. But it may end without an error, and so its entry in the log tell of success,
and the messages not have been sent: this is so exactly if there are any and the graph does not have
the node that the step is of. Then all that is done is to append the entry, which lists no response,
and to save the conversation as the step left it. -/
theorem told_iff {h : History} {r : Except DeliveryError Unit}
    (run : Program.Runs (e.runChain w c (.flowStep id step)) h r) :
    ∃ report legs entry, e.Audited w c (.flowStep id step) report legs entry h
      ∧ (told h <+: step.outbound ∨ step.outbound <+: told h)
      ∧ (report.error = none →
        (step.outbound <+: told h ↔ (w.graph.node? id).isSome = true ∨ step.messages = []))
      ∧ (w.graph.node? id = none → report = ⟨[], none⟩
        ∧ ∃ logId logged saved, h = [logId, logged, ⟨.saveConversation c, saved⟩]) := by
  rw [runChain_eq] at run
  obtain ⟨g, ⟨report, d⟩, k, rfl, ran, finished⟩ := Program.runs_bind.1 run
  obtain ⟨legs, entry, audited⟩ := e.audited_of_runs ran finished
  have same : told (g ++ k) = told g := by
    have unsent : told k = [] := congrArg (List.map _) (e.unsent_finish finished).1
    rw [told_append, unsent, List.append_nil]
  refine ⟨report, legs, entry, audited, ?_⟩
  rw [same]
  cases found : w.graph.node? id with
  | none =>
    rw [ChainScope.run_flowStep_of_none found] at ran
    obtain ⟨rfl, ended⟩ := ran
    cases ended
    obtain ⟨logId, logged, rest, rfl, saved, rfl, -⟩ := e.runs_finish finished
    have untold : told [] = [] := rfl
    refine ⟨.inl List.nil_prefix, fun _ => ?_, fun _ => ⟨rfl, _, _, saved, rfl⟩⟩
    simp [untold, FlowStep.outbound]
  | some node =>
    obtain ⟨inOrder, all⟩ := ChainScope.told_of_runs_run found ran
    exact ⟨inOrder, fun clean => iff_of_true (all clean) (.inl rfl), nofun⟩

/-! The confirmation of a booking whose node is edited out of the graph meanwhile. -/

namespace EditedGraph

def phone : String := "919800000001"

def now : Instant := (Instant.ofSeconds? 1773111600).get rfl

def settings : ServiceSettings := ⟨⟨14400, by decide, by decide⟩, 7, .standard⟩

def event : EventScope :=
  ⟨settings, (settings.clock.facts? phone none now).get rfl, .listReply, .null, now⟩

def workflow : Workflow :=
  { Workflow.new ⟨⟨1⟩⟩ ⟨⟨7⟩⟩ "Bookings" "token" now with
    graph := .ofParts [⟨"hello", .text ⟨"Hello"⟩⟩] [] }

def conversation : Conversation :=
  { Conversation.new workflow.id phone now with currentNodeId := some "book" }

def confirmation : FlowStep := ⟨[.text "Your appointment is confirmed."], .follow .booked⟩

def asked : History :=
  [⟨.newLogId, ⟨⟨4⟩⟩⟩,
    ⟨.appendLog (.new ⟨⟨4⟩⟩ workflow.id phone .listReply .null [] none now), .ok ()⟩,
    ⟨.saveConversation conversation, .ok ()⟩]

end EditedGraph

open EditedGraph in
theorem told_iff_editedGraph :
    Program.Runs (event.runChain workflow conversation (.flowStep "book" confirmation)) asked
      (.ok ())
    ∧ ¬ confirmation.outbound <+: told asked := by
  have run : Program.Runs (event.runChain workflow conversation (.flowStep "book" confirmation))
      asked (.ok ()) :=
    ⟨_, _, rfl, _, _, rfl, _, _, rfl, rfl, rfl⟩
  refine ⟨run, ?_⟩
  obtain ⟨report, legs, entry, -, -, delivered, gone⟩ := event.told_iff run
  obtain ⟨rfl, -⟩ := gone rfl
  rw [delivered rfl]
  decide

end EventScope

end Dialogue
