import Dialogue.Booking.Flow
import Dialogue.Service.Request
import Dialogue.Text.Bullet

/-!
# Chains

A chain is a walk along the nodes of a workflow on behalf of one event. What it has done so far is
the conversation it moves on, the messages that were sent, and what it looked up once: the token of
the channel and the pause between messages. The first error ends a chain; what was done before it
stays done.
-/

namespace Dialogue

/-- The facts of an event. -/
structure Facts where
  phone : String
  text : Option String
  timestamp : Instant
  localDate : Date
  localTime : TimeOfDay
  deriving DecidableEq, Repr

namespace Facts

/-- The scope of templates: the variables, the phone, the text and the time. -/
def templateScope (f : Facts) (c : Context) : Json :=
  .obj (((c.vars.insert "phone" (.str f.phone)).insert "text" (.ofOption .str f.text)).insert
    "timestamp" (.str f.timestamp.offsetText))

/-- The visit of a booking at the event. -/
def visit (f : Facts) (account : AccountId) (daysAhead : UInt32) : Visit :=
  ⟨account, f.phone, f.localDate, f.localTime, daysAhead⟩

end Facts

/-- Why a chain ended early. -/
inductive ChainError where
  | noChannel (account : AccountId)
  | sendFailed (node : NodeId) (details : String)
  | unsupportedNode (node : NodeId) (kind reason : String)
  | booking (node : NodeId) (details : String)
  | cycle (node : NodeId) (limit : Nat)
  | saveFailed (details : String)
  | lookup (details : String)
  deriving DecidableEq, Repr

namespace ChainError

/-- Whether the failure is one that the sender of the event has to see. -/
def isPersistence : ChainError → Bool
  | .saveFailed _ => true
  | _ => false

/-- The failure in words. -/
def message : ChainError → String
  | .noChannel account => "no active channel for account " ++ account.text
  | .sendFailed node details => "send from node " ++ node ++ " failed: " ++ details
  | .unsupportedNode node kind reason =>
    "node " ++ node ++ " (" ++ kind ++ ") cannot be executed: " ++ reason
  | .booking node details => "booking node " ++ node ++ " failed: " ++ details
  | .cycle node limit =>
    "chain exceeded " ++ toString limit ++ " nodes at node " ++ node ++ "; the graph has a cycle"
  | .saveFailed details => "conversation state save failed: " ++ details
  | .lookup details => "lookup failed: " ++ details

end ChainError

/-- Where a chain starts: at a node; at an entry node, which it does not leave; or at a booking
node with a step of its flow. -/
inductive ChainStart where
  | node (id : NodeId)
  | entry (id : NodeId)
  | flowStep (id : NodeId) (step : FlowStep)
  deriving DecidableEq, Repr

/-- What a chain did. -/
structure ChainReport where
  responses : List SentResponse
  error : Option ChainError
  deriving DecidableEq, Repr

/-- What a chain has done so far. -/
structure ChainState where
  conversation : Conversation
  responses : List SentResponse
  token : Option String
  delay : Option UInt64
  deriving DecidableEq, Repr

/-- A chain that has done nothing. -/
def ChainState.start (c : Conversation) : ChainState := ⟨c, [], none, none⟩

/-- Work of a chain. -/
abbrev ChainWork (α : Type) := ExceptT ChainError (StateT ChainState Service) α

namespace ChainWork

/-- Asks a collaborator. -/
def ask (r : Request) : ChainWork r.Answer := fun s =>
  Program.ask r fun answer => .done (.ok answer, s)

/-- Asks a collaborator whose failure ends the chain. -/
def asking (p : Service (Except ε α)) (error : ε → ChainError) : ChainWork α := fun s =>
  p.bind fun r => .done (r.mapError error, s)

/-- Runs a part of a service. -/
def lift (p : Service α) : ChainWork α := fun s => p.bind fun a => .done (.ok a, s)

/-- Work of a booking on the chain's conversation. -/
def ofBooking (node : NodeId) (w : BookingWork α) : ChainWork α := fun s =>
  (Service.ofBooking (w s.conversation.context)).bind fun r =>
    .done (r.1.mapError fun e => .booking node (Text.report e.message),
      { s with conversation := { s.conversation with context := r.2 } })

end ChainWork

end Dialogue
