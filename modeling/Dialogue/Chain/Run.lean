import Dialogue.Chain.Basic
import Dialogue.Graph.Route

/-!
# Running a chain

A node that sends a message is left at once if nobody replies to it, and ends the chain if somebody
can. A call and a booking end along the edge of their outcome. The conversation is saved after
every node, before the chain goes on, so a failure later in the chain never repeats an earlier
node. A chain reaches at most as many nodes as the graph has; one that would reach more goes round
in a circle and is stopped.
-/

namespace Dialogue

open ChainWork

/-- The workflow and the event of a chain, the settings of the service, and its own clock. -/
structure ChainScope where
  workflow : Workflow
  facts : Facts
  settings : ServiceSettings
  now : Instant

namespace ChainScope

variable (e : ChainScope)

/-- The visit of the chain's bookings. -/
def visit : Visit := e.facts.visit e.workflow.accountId e.settings.daysAhead

/-- Saves the conversation. -/
def save : ChainWork Unit := do
  let s ← get
  asking (Service.ask (.saveConversation s.conversation)) fun e =>
    .saveFailed (Text.report e.message)

/-- Moves the conversation to a node and saves it. -/
def saveAt (node : Node) : ChainWork Unit := do
  modify fun s => { s with conversation := s.conversation.advanceTo node.id e.now }
  save

/-- Reads the setting of the pause between messages. -/
def delayOf : Except SettingError (Option String) → UInt64
  | .ok (some value) =>
    match Text.readInteger? .unsigned64 (Text.trim value) with
    | some n => .ofNat n.toNat
    | none => 0
  | _ => 0

/-- The pause between messages, which is looked up once. -/
def pacing : ChainWork UInt64 := do
  match (← get).delay with
  | some delay => pure delay
  | none =>
    let delay := delayOf (← ask (.setting .messageDelay))
    modify fun s => { s with delay := some delay }
    pure delay

/-- Waits between messages. -/
def pace : ChainWork Unit := do
  if (← get).responses.isEmpty then
    pure ()
  else
    let delay ← pacing
    if delay = 0 then pure () else ask (.pause delay)

/-- The token of the account's channel, which is looked up once. -/
def token : ChainWork String := do
  match (← get).token with
  | some token => pure token
  | none =>
    let found ← asking (Service.ask (.channel e.workflow.accountId)) fun err =>
      .lookup (Text.report err.message)
    match found.filter Channel.isUsable with
    | some channel =>
      modify fun s => { s with token := some channel.token }
      pure channel.token
    | none => throw (.noChannel e.workflow.accountId)

/-- Sends a message of a node. -/
def send (node : Node) (message : OutboundMessage) : ChainWork String := do
  pace
  let token ← e.token
  let messageId ← asking (Service.ask (.send token e.facts.phone message)) fun err =>
    .sendFailed node.id (Text.report err.message)
  modify fun s => { s with
    responses := s.responses ++ [⟨node.id, node.kind.tag, some messageId⟩] }
  pure messageId

/-- Records an interactive message; a failure is passed over. -/
def record (node : Node) (messageId : String) : ChainWork Unit := do
  let _ ← ask (.recordMessage
    ⟨e.workflow.id, messageId, e.facts.phone, node.kind.tag, e.now⟩)
  pure ()

/-- Sends a message of a node and records it if somebody can reply to it. -/
def deliver (node : Node) (message : OutboundMessage) : ChainWork Unit := do
  let messageId ← e.send node message
  if message.isInteractive then e.record node messageId else pure ()

/-- Sends messages of a node one after another. -/
def deliverAll (node : Node) : List OutboundMessage → ChainWork Unit
  | [] => pure ()
  | m :: r => do
    e.deliver node m
    deliverAll node r

end ChainScope

/-- The message of a flow. -/
def FlowMessage.outbound : FlowMessage → OutboundMessage
  | .text body => .text body
  | .list content => .interactive content.message

namespace ChainScope

variable (e : ChainScope)

/-- Where a flow's transition leads. -/
def transitionTarget? (node : Node) : FlowTransition → Option NodeId
  | .awaitReply | .stop => none
  | .follow outcome => (e.workflow.graph.primaryOutcome? node.id outcome.handle).map Edge.target

/-- Saves the conversation, sends the messages of a step, and goes on from its outcome. The save
comes first, since the step may have made a booking. -/
def deliverStep (node : Node) (step : FlowStep) : ChainWork (Option NodeId) := do
  e.saveAt node
  e.deliverAll node (step.messages.map FlowMessage.outbound)
  pure (e.transitionTarget? node step.transition)

/-- The domains that calls may go to; none if the setting cannot be read. -/
def allowlistOf : Except SettingError (Option String) → Allowlist
  | .ok (some value) => .parse value
  | _ => .none

/-- The context after a call: its outcome under the node's identifier, then what was mapped. -/
def noteOutcome (node : Node) (o : HttpOutcome) (c : Context) : Context :=
  (c.set node.id o.toJson).merge o.mapped

/-- Makes a call. -/
def callHttp (node : Node) (call : HttpCall) : ChainWork (Option NodeId) := do
  let scope := e.facts.templateScope (← get).conversation.context
  let allowed := allowlistOf (← ask (.setting .allowedDomains))
  let outcome ← lift (Service.ofHttp (call.run e.settings.http scope allowed))
  modify fun s =>
    let c := s.conversation
    { s with conversation := { c with context := noteOutcome node outcome c.context } }
  e.saveAt node
  pure ((e.workflow.graph.outcome? node.id outcome.handle).map Edge.target)

/-- Sends the message of a node, if it has one. -/
def sendOwn (node : Node) : ChainWork Unit := e.deliverAll node node.kind.message?.toList

/-- Executes a node and finds the one to go on with. -/
def execute (node : Node) : ChainWork (Option NodeId) :=
  match node.kind with
  | .text _ | .media _ | .location _ => do
    e.sendOwn node
    e.saveAt node
    pure ((e.workflow.graph.firstOutgoing? node.id).map Edge.target)
  | .quickReply _ | .list _ | .buttons _ | .carousel _ => do
    e.sendOwn node
    e.saveAt node
    pure none
  | .httpCall call => e.callHttp node call
  | .bookAppointment settings => do
    let step ← ofBooking node.id (e.visit.startBooking node.id settings)
    e.deliverStep node step
  | .checkBookings settings => do
    let step ← ofBooking node.id (e.visit.startCheck node.id settings)
    e.deliverStep node step
  | .unsupported kind reason => throw (.unsupportedNode node.id kind reason.message)

/-- Walks from a node, with a number of nodes still allowed. -/
def walk : Nat → NodeId → ChainWork Unit
  | budget, id =>
    match e.workflow.graph.node? id with
    | none => pure ()
    | some node =>
      match budget with
      | 0 => throw (.cycle id e.workflow.graph.nodeCount)
      | budget + 1 => do
        match ← e.execute node with
        | some next => walk budget next
        | none => pure ()

/-- Walks on from a node, if there is one. -/
def walkOn (budget : Nat) : Option NodeId → ChainWork Unit
  | some next => e.walk budget next
  | none => pure ()

/-- Walks from a start. A target that does not exist ends the chain. -/
def drive : ChainStart → ChainWork Unit
  | .node id => e.walk e.workflow.graph.nodeCount id
  | .entry id => do
    match e.workflow.graph.node? id with
    | some node =>
      let _ ← e.execute node
      pure ()
    | none => pure ()
  | .flowStep id step => do
    match e.workflow.graph.node? id with
    | some node =>
      let next ← e.deliverStep node step
      e.walkOn (e.workflow.graph.nodeCount - 1) next
    | none => pure ()

/-- Runs a chain: what it did, and the conversation afterwards. -/
def run (conversation : Conversation) (start : ChainStart) :
    Service (ChainReport × Conversation) :=
  (e.drive start (.start conversation)).bind fun r =>
    .done (⟨r.2.responses, match r.1 with | .ok _ => none | .error error => some error⟩,
      r.2.conversation)

end ChainScope

end Dialogue
