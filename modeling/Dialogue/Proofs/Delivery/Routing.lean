import Dialogue.Proofs.Delivery.Histories

/-!
# Which workflow takes a reply

A reply is offered to workflows in order. `EventScope.Routed` says all that offering it to one of
them can come to: the workflow passes it on, since its booking declined it and its graph has no
edge for it; or it takes it, and only then a chain is run; or its conversation could not be read or
saved. `EventScope.Offered` says so of all of them: those before the last one passed the reply on.
-/

namespace Dialogue

namespace EventScope

open DeliveryWork

variable (e : EventScope) (replyId : String)

/-- The conversation that a workflow works on, given the one that was loaded. -/
def found (w : Workflow) (loaded : Option Conversation) : Conversation :=
  loaded.getD (.new w.id e.facts.phone e.now)

/-- What the booking in progress of a conversation, if there is one, asked without taking the
reply, and the conversation afterwards. A rejected reply ends the booking, which is saved. -/
inductive Declined (w : Workflow) (c : Conversation) : History → Conversation → Prop
  | idle (hp : c.context.booking = none) : Declined w c [] c
  | notForFlow (p : BookingProgress) (calls : List BookingExchange) (x : Context)
    (hp : c.context.booking = some p)
    (run : ((e.chain w).visit.takeReply replyId c.context).Runs calls (.ok .notForFlow, x)) :
    Declined w c (calls.map BookingExchange.inService) { c with context := x }
  | rejected (p : BookingProgress) (calls : List BookingExchange) (x : Context)
    (hp : c.context.booking = some p)
    (run : ((e.chain w).visit.takeReply replyId c.context).Runs calls (.ok .rejected, x)) :
    Declined w c (calls.map BookingExchange.inService ++
      [⟨.saveConversation { c with context := x }, .ok ()⟩]) { c with context := x }

/-- A workflow takes a reply: its booking takes it and goes on as a chain, or fails; or its booking
declines and its graph leads the reply to a node, where a chain starts. -/
inductive Taken (w : Workflow) (c : Conversation) : History → Except DeliveryError Unit → Prop
  | handled (p : BookingProgress) (calls : List BookingExchange) (x : Context) (step : FlowStep)
    (g : History) (r : Except DeliveryError Unit) (hp : c.context.booking = some p)
    (run : ((e.chain w).visit.takeReply replyId c.context).Runs calls (.ok (.handled step), x))
    (chain : Program.Runs
      (e.runChain w (e.arrive { c with context := x }) (.flowStep p.nodeId step)) g r) :
    Taken w c (calls.map BookingExchange.inService ++ g) r
  | failed (p : BookingProgress) (calls : List BookingExchange) (x : Context) (err : BookingError)
    (g : History) (r : Except DeliveryError Unit) (hp : c.context.booking = some p)
    (run : ((e.chain w).visit.takeReply replyId c.context).Runs calls (.error err, x))
    (log : Program.Runs (e.finishBooking w { c with context := x } p.nodeId err) g r) :
    Taken w c (calls.map BookingExchange.inService ++ g) r
  | routed (asked : History) (d : Conversation) (rule : RouteRule) (edge : Edge) (g : History)
    (r : Except DeliveryError Unit) (declined : e.Declined replyId w c asked d)
    (route : w.graph.routeReply? replyId = some (rule, edge))
    (chain : Program.Runs
      (e.runChain w (e.arrive d).clearProgress (.node edge.target)) g r) :
    Taken w c (asked ++ g) r

/-- What offering a reply to a workflow comes to, between the lock and the unlock. -/
inductive Routed (w : Workflow) : History → Except DeliveryError Bool → Prop
  | unread (err : ConversationError) : Routed w [⟨.loadConversation (e.key w), .error err⟩]
      (.error (.persistence (Text.report err.message)))
  | unsaved (loaded : Option Conversation) (p : BookingProgress) (calls : List BookingExchange)
    (x : Context) (err : ConversationError) (hp : (e.found w loaded).context.booking = some p)
    (run : ((e.chain w).visit.takeReply replyId (e.found w loaded).context).Runs calls
      (.ok .rejected, x)) :
    Routed w (⟨.loadConversation (e.key w), .ok loaded⟩ ::
      (calls.map BookingExchange.inService ++
        [⟨.saveConversation { e.found w loaded with context := x }, .error err⟩]))
      (.error (.persistence (ChainError.saveFailed (Text.report err.message)).message))
  | passed (loaded : Option Conversation) (asked : History) (d : Conversation)
    (declined : e.Declined replyId w (e.found w loaded) asked d)
    (unrouted : w.graph.routeReply? replyId = none) :
    Routed w (⟨.loadConversation (e.key w), .ok loaded⟩ :: asked) (.ok false)
  | taken (loaded : Option Conversation) (g : History) (r : Except DeliveryError Unit)
    (taken : e.Taken replyId w (e.found w loaded) g r) :
    Routed w (⟨.loadConversation (e.key w), .ok loaded⟩ :: g) (r.map fun _ => true)

/-- A history under the lock of the participant's conversation with a workflow. -/
def locked (w : Workflow) (g : History) : History :=
  ⟨.lock (e.key w), ()⟩ :: (g ++ [⟨.unlock (e.key w), ()⟩])

/-- What offering a reply to workflows in order comes to. -/
inductive Offered : List Workflow → History → Except DeliveryError Bool → Prop
  | nobody : Offered [] [] (.ok false)
  | passed (w : Workflow) (rest : List Workflow) (g h : History) (r : Except DeliveryError Bool)
    (first : e.Routed replyId w g (.ok false)) (others : Offered rest h r) :
    Offered (w :: rest) (e.locked w g ++ h) r
  | last (w : Workflow) (rest : List Workflow) (g : History) (r : Except DeliveryError Bool)
    (hr : r ≠ .ok false) (routed : e.Routed replyId w g r) :
    Offered (w :: rest) (e.locked w g) r

variable {e replyId} {w : Workflow}

theorem runs_routeByGraph {c : Conversation} {h : History} {r : Except DeliveryError Bool}
    (run : Program.Runs (e.routeByGraph w replyId c) h r) :
    (w.graph.routeReply? replyId = none ∧ h = [] ∧ r = .ok false)
      ∨ ∃ rule edge s, w.graph.routeReply? replyId = some (rule, edge)
        ∧ Program.Runs (e.runChain w (e.arrive c).clearProgress (.node edge.target)) h s
        ∧ r = s.map fun _ => true := by
  unfold routeByGraph at run
  cases hroute : w.graph.routeReply? replyId with
  | none =>
    rw [hroute] at run
    obtain ⟨rfl, rfl⟩ := run
    exact .inl ⟨rfl, rfl, rfl⟩
  | some found =>
    obtain ⟨rule, edge⟩ := found
    rw [hroute] at run
    obtain ⟨s, chain, rfl⟩ := runs_then_true run
    exact .inr ⟨rule, edge, s, rfl, chain, rfl⟩

/-- Where the booking declined, the graph is asked. -/
theorem routed_of_declined {loaded : Option Conversation} {asked h : History} {d : Conversation}
    {r : Except DeliveryError Bool} (declined : e.Declined replyId w (e.found w loaded) asked d)
    (run : Program.Runs (e.routeByGraph w replyId d) h r) :
    e.Routed replyId w (⟨.loadConversation (e.key w), .ok loaded⟩ :: (asked ++ h)) r := by
  rcases runs_routeByGraph run with ⟨hroute, rfl, rfl⟩ | ⟨rule, edge, s, hroute, chain, rfl⟩
  · rw [List.append_nil]
    exact .passed loaded asked d declined hroute
  · exact .taken loaded _ s (.routed asked d rule edge h s declined hroute chain)

/-- A booking in progress is offered the reply before the graph is. -/
theorem routed_of_booking {loaded : Option Conversation} {p : BookingProgress} {h : History}
    {r : Except DeliveryError Bool} (hp : (e.found w loaded).context.booking = some p)
    (run : Program.Runs (e.routeInBooking w replyId (e.found w loaded) p) h r) :
    e.Routed replyId w (⟨.loadConversation (e.key w), .ok loaded⟩ :: h) r := by
  rw [routeInBooking_eq] at run
  rcases runs_bind run with ⟨h₁, a, g, rfl, booked, rest⟩ | ⟨err, booked, -⟩
  · obtain ⟨⟨handling, x⟩, hs, asked⟩ := runs_booking booked
    cases hs
    obtain ⟨calls, rfl, took⟩ := runs_ofBooking.1 asked
    rcases handling with err | _ | _ | step
    · obtain ⟨s, log, rfl⟩ := runs_then_true rest
      exact .taken loaded _ s (.failed p calls x err g s hp took log)
    · exact routed_of_declined (.notForFlow p calls x hp took) rest
    · rcases runs_bind rest with ⟨h₂, u, g', rfl, saved, onward⟩ | ⟨err, saved, rfl⟩
      · obtain ⟨answer, h', rfl, rfl, ha⟩ := saved
        cases answer with
        | error err => cases ha
        | ok u =>
          have declined : e.Declined replyId w (e.found w loaded) _ _ :=
            .rejected p calls x hp took
          have routed := routed_of_declined declined onward
          rwa [List.append_assoc] at routed
      · obtain ⟨answer, h', rfl, rfl, ha⟩ := saved
        cases answer with
        | ok u => cases ha
        | error err =>
          cases ha
          exact .unsaved loaded p calls x err hp took
    · obtain ⟨s, chain, rfl⟩ := runs_then_true rest
      exact .taken loaded _ s (.handled p calls x step g s hp took chain)
  · obtain ⟨_, ⟨⟩, -⟩ := runs_booking booked

/-- Offering a reply to a workflow comes to nothing else. -/
theorem routed_of_runs {h : History} {r : Except DeliveryError Bool}
    (run : Program.Runs (e.route replyId w) h r) :
    ∃ g, h = e.locked w g ∧ e.Routed replyId w g r := by
  obtain ⟨a, b, g, rfl, inside⟩ := runs_withLock run
  refine ⟨g, rfl, ?_⟩
  rw [loadOrNew_bind] at inside
  obtain ⟨answer, g', rfl, rest⟩ := inside
  cases answer with
  | error err =>
    obtain ⟨rfl, rfl⟩ := rest
    exact .unread err
  | ok loaded =>
    dsimp only [Except.mapError, Program.bind, ExceptT.bindCont] at rest
    cases hp : (loaded.getD (.new w.id e.facts.phone e.now)).context.booking with
    | some p =>
      rw [hp] at rest
      exact routed_of_booking hp rest
    | none =>
      rw [hp] at rest
      exact routed_of_declined (.idle hp) rest

/-- Workflows are offered a reply one after another, until one does not pass it on. -/
theorem offered_of_runs : ∀ {workflows : List Workflow} {h : History}
    {r : Except DeliveryError Bool}, Program.Runs (anyTakes (e.route replyId) workflows) h r →
      e.Offered replyId workflows h r
  | [], h, r, run => by
    obtain ⟨rfl, rfl⟩ := run
    exact .nobody
  | w :: rest, h, r, run => by
    rcases runs_bind run with ⟨h₁, taken, h₂, rfl, first, others⟩ | ⟨err, first, rfl⟩
    · obtain ⟨g, rfl, routed⟩ := routed_of_runs first
      cases taken with
      | true =>
        obtain ⟨rfl, rfl⟩ := others
        rw [List.append_nil]
        exact .last w rest g _ nofun routed
      | false => exact .passed w rest g h₂ r routed (offered_of_runs others)
    · obtain ⟨g, rfl, routed⟩ := routed_of_runs first
      exact .last w rest g _ nofun routed

/-- The outcome of a reply. -/
def replyOutcome (taken : Bool) : DeliveryOutcome := if taken then .ok else .notHandled

/-- Only workflows that own the quoted message, or any if nobody does, are offered the reply. -/
theorem offered_of_runs_handleReply {workflows : List Workflow} {record : Option SentMessage}
    {h : History} {r : Except DeliveryError DeliveryOutcome}
    (run : Program.Runs (e.handleReply workflows record replyId) h r) :
    ∃ taken, r = taken.map replyOutcome ∧ e.Offered replyId
      (workflows.filter fun w => (Ownership.of record w.id).mayHandle) h taken := by
  unfold handleReply at run
  rcases runs_bind run with ⟨h₁, taken, h₂, rfl, offers, rest⟩ | ⟨err, offers, rfl⟩
  · cases taken with
    | true =>
      obtain ⟨rfl, rfl⟩ := rest
      rw [List.append_nil]
      exact ⟨.ok true, rfl, offered_of_runs offers⟩
    | false =>
      obtain ⟨rfl, rfl⟩ := rest
      rw [List.append_nil]
      exact ⟨.ok false, rfl, offered_of_runs offers⟩
  · exact ⟨.error err, rfl, offered_of_runs offers⟩

end EventScope

end Dialogue
