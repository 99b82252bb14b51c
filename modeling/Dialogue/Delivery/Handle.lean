import Dialogue.Chain.Run
import Dialogue.Delivery.Event
import Dialogue.Delivery.FirstOfDay
import Dialogue.Delivery.Outcome
import Dialogue.Delivery.Owner

/-!
# Handling a delivery

The events of a delivery are handled in order. A text goes to the first workflow whose booking
waits for one; else the first text of a day starts the entry nodes, and a later one is an inquiry.
A reply is offered to the workflows of the token in order, passing over those that do not own it,
until one takes it by its booking or by its graph. Whatever reads, changes and saves a conversation
holds the conversation's lock. A chain's own failures are logged; only a storage without which
nothing can be done fails the delivery.
-/

namespace Dialogue

/-- Work on a delivery. -/
abbrev DeliveryWork (α : Type) := ExceptT DeliveryError Service α

namespace DeliveryWork

/-- Asks a collaborator. -/
def ask (r : Request) : DeliveryWork r.Answer := ExceptT.lift (Service.ask r)

/-- Work whose failure is a failure of storage. -/
def persisting (p : Service (Except ε α)) (text : ε → String) : DeliveryWork α :=
  p.bind fun r => .done (r.mapError fun e => .persistence (text e))

/-- Works while holding the lock of a conversation. -/
def withLock (key : ConversationKey) (w : DeliveryWork α) : DeliveryWork α :=
  (Service.ask (.lock key)).bind fun _ => Program.bind w fun r =>
    (Service.ask (.unlock key)).bind fun _ => .done r

end DeliveryWork

open DeliveryWork

/-- The facts of an event, if the calendar has its local date. -/
def LocalClock.facts? (clock : LocalClock) (phone : String) (text : Option String)
    (timestamp : Instant) : Option Facts :=
  (clock.date? timestamp).map fun date => ⟨phone, text, timestamp, date, clock.time timestamp⟩

/-- An event to handle: what it is classified as, what the provider wrote, and the time on the
service's own clock. -/
structure EventScope where
  settings : ServiceSettings
  facts : Facts
  kind : MessageKind
  raw : Json
  now : Instant

namespace EventScope

variable (e : EventScope)

/-- The key of the participant's conversation with a workflow. -/
def key (w : Workflow) : ConversationKey := ⟨w.id, e.facts.phone⟩

/-- The scope of a chain of a workflow. -/
def chain (w : Workflow) : ChainScope := ⟨w, e.facts, e.settings, e.now⟩

/-- The participant's conversation with a workflow. -/
def load (w : Workflow) : DeliveryWork (Option Conversation) :=
  persisting (Service.ask (.loadConversation (e.key w))) fun err => Text.report err.message

/-- The participant's conversation, or one that has not begun. -/
def loadOrNew (w : Workflow) : DeliveryWork Conversation := do
  let found ← e.load w
  pure (found.getD (.new w.id e.facts.phone e.now))

/-- Saves a conversation. -/
def save (c : Conversation) : DeliveryWork Unit :=
  persisting (Service.ask (.saveConversation c)) fun err =>
    (ChainError.saveFailed (Text.report err.message)).message

/-- Notes the event in a conversation. -/
def arrive (c : Conversation) : Conversation :=
  c.recordInbound e.facts.timestamp e.facts.localDate e.now

/-- Writes the log of a chain and, if the chain went well, saves the conversation. -/
def finish (w : Workflow) (report : ChainReport) (c : Conversation) : DeliveryWork Unit := do
  let id ← ask .newLogId
  let entry := LogEntry.new id w.id e.facts.phone e.kind e.raw report.responses
    (report.error.map ChainError.message) e.now
  let _ ← ask (.appendLog entry)
  match report.error with
  | some error =>
    if error.isPersistence then throw (.persistence error.message) else pure ()
  | none => save c

/-- Runs a chain and finishes it. -/
def runChain (w : Workflow) (c : Conversation) (start : ChainStart) : DeliveryWork Unit := do
  let (report, c) ← ExceptT.lift ((e.chain w).run c start)
  e.finish w report c

/-- Finishes with a failure of a booking. -/
def finishBooking (w : Workflow) (c : Conversation) (node : NodeId) (err : BookingError) :
    DeliveryWork Unit :=
  e.finish w ⟨[], some (.booking node (Text.report err.message))⟩ c

/-- Work of a booking on a conversation, with the conversation afterwards. -/
def booking (c : Conversation) (work : BookingWork α) :
    DeliveryWork (Except BookingError α × Conversation) := do
  let (r, context) ← ExceptT.lift (Service.ofBooking (work c.context))
  pure (r, { c with context := context })

/-- Offers a text to a booking that waits for one. -/
def captureIn (w : Workflow) (text : String) (c : Conversation) (p : BookingProgress) :
    DeliveryWork Bool := do
  let (r, c) ← booking c ((e.chain w).visit.takeText text)
  match r with
  | .ok none => pure false
  | .ok (some step) =>
    e.runChain w (e.arrive c) (.flowStep p.nodeId step)
    pure true
  | .error err =>
    e.finishBooking w c p.nodeId err
    pure true

/-- The booking of a conversation that waits for a text. -/
def waiting? (c : Conversation) : Option BookingProgress :=
  c.context.booking.filter fun p => p.step.awaitsText

/-- Offers a text to a workflow's booking; whether it was taken. -/
def capture (text : String) (w : Workflow) : DeliveryWork Bool :=
  withLock (e.key w) do
    let some c ← e.load w | pure false
    match waiting? c with
    | some p => e.captureIn w text c p
    | none => pure false

/-- Starts a workflow at its entry node. -/
def startEntry (w : Workflow) : DeliveryWork Unit :=
  match w.entryNodeId with
  | none => pure ()
  | some entry =>
    withLock (e.key w) do
      let c ← e.loadOrNew w
      e.runChain w (e.arrive c).clearProgress (.entry entry)

/-- Starts workflows at their entry nodes, each whatever became of the others; the first
failure. -/
def startAll : List Workflow → Service (Option DeliveryError)
  | [] => pure none
  | w :: r => do
    let result ← (e.startEntry w).run
    let later ← startAll r
    pure (match result with
      | .error err => some err
      | .ok _ => later)

/-- Whether any of the workflows takes an event; they are asked until one does. -/
def anyTakes (offer : Workflow → DeliveryWork Bool) : List Workflow → DeliveryWork Bool
  | [] => pure false
  | w :: r => do
    if ← offer w then pure true else anyTakes offer r

/-- Handles the first text of a day. -/
def startDay (workflows : List Workflow) : DeliveryWork DeliveryOutcome := do
  if workflows.isEmpty then
    pure .notHandled
  else
    match ← ExceptT.lift (e.startAll workflows) with
    | some err => throw (.persistence (Text.report err.message))
    | none => pure .ok

/-- Handles a text. -/
def handleText (account : AccountId) (workflows : List Workflow) (body : String) :
    DeliveryWork DeliveryOutcome := do
  if ← anyTakes (e.capture body) workflows then
    pure .captured
  else
    let decision ← persisting (DayDecision.decide account e.facts.phone e.facts.localDate)
      fun err => Text.report err.message
    match decision with
    | .inquiry => pure .inquiry
    | .first starting => e.startDay starting

/-- Offers a reply to a workflow's graph; whether it was taken. -/
def routeByGraph (w : Workflow) (replyId : String) (c : Conversation) : DeliveryWork Bool :=
  match w.graph.routeReply? replyId with
  | none => pure false
  | some (_, edge) => do
    e.runChain w (e.arrive c).clearProgress (.node edge.target)
    pure true

/-- Offers a reply to a workflow's booking in progress, and to its graph if that does not take
it. -/
def routeInBooking (w : Workflow) (replyId : String) (c : Conversation) (p : BookingProgress) :
    DeliveryWork Bool := do
  let (r, c) ← booking c ((e.chain w).visit.takeReply replyId)
  match r with
  | .ok (.handled step) =>
    e.runChain w (e.arrive c) (.flowStep p.nodeId step)
    pure true
  | .ok .rejected =>
    save c
    e.routeByGraph w replyId c
  | .ok .notForFlow => e.routeByGraph w replyId c
  | .error err =>
    e.finishBooking w c p.nodeId err
    pure true

/-- Offers a reply to a workflow; whether it was taken. -/
def route (replyId : String) (w : Workflow) : DeliveryWork Bool :=
  withLock (e.key w) do
    let c ← e.loadOrNew w
    match c.context.booking with
    | some p => e.routeInBooking w replyId c p
    | none => e.routeByGraph w replyId c

/-- Handles a reply, given the record of the message it quotes. -/
def handleReply (workflows : List Workflow) (record : Option SentMessage) (replyId : String) :
    DeliveryWork DeliveryOutcome := do
  let allowed := workflows.filter fun w => (Ownership.of record w.id).mayHandle
  if ← anyTakes (e.route replyId) allowed then pure .ok else pure .notHandled

end EventScope

/-- A delivery to an account, and when it was received. While it is handled, the service's own clock
stands at that time. -/
structure Delivery where
  account : AccountId
  token : String
  payload : Json
  receivedAt : Instant
  deriving Repr

namespace ServiceSettings

variable (s : ServiceSettings)

/-- Handles an event. -/
def handleEvent (account : AccountId) (workflows : List Workflow) (raw : Json) (now : Instant) :
    InboundEvent → DeliveryWork DeliveryOutcome
  | .ignorable _ => pure .ignored
  | .text event =>
    match s.clock.facts? event.phone (some event.body) event.timestamp with
    | some facts => EventScope.handleText ⟨s, facts, .text, raw, now⟩ account workflows event.body
    | none => throw .outOfCalendar
  | .reply event => do
    let record ← persisting (Ownership.find event.quotedId) fun err => Text.report err.message
    match s.clock.facts? event.phone event.title event.timestamp with
    | some facts =>
      EventScope.handleReply ⟨s, facts, event.kind, raw, now⟩ workflows record event.replyId
    | none => throw .outOfCalendar

/-- Handles messages in order, after an outcome. -/
def handleMessages (account : AccountId) (workflows : List Workflow) (receivedAt : Instant) :
    List Json → DeliveryOutcome → DeliveryWork DeliveryOutcome
  | [], outcome => pure outcome
  | raw :: r, outcome => do
    let next ← s.handleEvent account workflows raw receivedAt (.ofJson raw receivedAt)
    handleMessages account workflows receivedAt r (outcome.merge next)

/-- Handles a delivery. -/
def handle (d : Delivery) : DeliveryWork DeliveryOutcome := do
  let workflows ← persisting (Service.ask (.workflowsByToken d.account d.token)) fun err =>
    Text.report err.message
  if workflows.isEmpty then
    throw .unauthorized
  else
    s.handleMessages d.account workflows d.receivedAt (InboundEvent.messages d.payload) .ignored

end ServiceSettings

end Dialogue
