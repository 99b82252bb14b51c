import Dialogue.Booking.Flow
import Dialogue.Conversation.Record
import Dialogue.Rehearsal.Faults

/-!
# Rehearsed appointments

Tables of appointments behind faults. Things can be hidden, an attempt to take a place can be made
to find it full, and a cancellation or a move can be made to find nothing. What was done is kept
in a trace.
-/

namespace Dialogue

/-- Something that was done in a rehearsal. -/
inductive TraceEntry where
  | createBooking (slot : SlotId) (date : Date)
  | cancelBooking (id : BookingId)
  | rescheduleBooking (id : BookingId) (slot : SlotId) (date : Date)
  | send (messageId : String)
  | sendFailed (kind : String)
  | save (workflow : WorkflowId) (node : Option NodeId)
  | saveFailed (workflow : WorkflowId) (node : Option NodeId)
  | record (messageId : String)
  | log (workflow : WorkflowId) (status : ExecutionStatus)
  | http (url : String)
  | claim (date : Date) (claimed : Bool)
  deriving Repr

namespace TraceEntry

/-- The words of an entry. -/
def words : TraceEntry → List Json
  | .createBooking slot date =>
    [.str "create_booking", .ofInt64 slot.number, date.toJson]
  | .cancelBooking id => [.str "cancel_booking", .ofInt64 id.number]
  | .rescheduleBooking id slot date =>
    [.str "reschedule_booking", .ofInt64 id.number, .ofInt64 slot.number, date.toJson]
  | .send messageId => [.str "send", .str messageId]
  | .sendFailed kind => [.str "send_failed", .str kind]
  | .save workflow node => [.str "save", workflow.toJson, .ofOption .str node]
  | .saveFailed workflow node => [.str "save_failed", workflow.toJson, .ofOption .str node]
  | .record messageId => [.str "record", .str messageId]
  | .log workflow status => [.str "log", workflow.toJson, .str status.name]
  | .http url => [.str "http", .str url]
  | .claim date claimed => [.str "claim", date.toJson, .bool claimed]

def toJson (e : TraceEntry) : Json := .arr e.words

end TraceEntry

/-- Tables of appointments with faults, hidden things and a trace. -/
structure BookingStage where
  tables : BookingTables
  faults : Faults
  hidden : List Int64
  trace : List TraceEntry
  deriving Repr

namespace BookingStage

/-- Empty tables without faults. -/
def empty : BookingStage := ⟨.empty, .none, [], []⟩

/-- Whether a number is hidden. -/
def isHidden (s : BookingStage) (number : Int64) : Bool := s.hidden.contains number

/-- Leaves hidden things out of an answer. -/
def veil (s : BookingStage) : (q : BookingQuery) → q.Answer → q.Answer
  | .listDepartments _, l => l.filter fun d => !s.isHidden d.id.number
  | .getDepartment _ _, d => d.filter fun d => !s.isHidden d.id.number
  | .listStaff _ _, l => l.filter fun d => !s.isHidden d.id.number
  | .getStaff _ _, d => d.filter fun d => !s.isHidden d.id.number
  | .listSlots _ _, l => l.filter fun d => !s.isHidden d.id.number
  | .getSlot _ _, d => d.filter fun d => !s.isHidden d.id.number
  | .availability _ _ _ _, a => a
  | .create _, a => a
  | .listUpcoming _ _ _, a => a
  | .get _ _, a => a
  | .cancel _ _, a => a
  | .reschedule _ _ _ _, a => a

/-- The trace of a query, where it changes something. -/
def traceOf? : BookingQuery → Option TraceEntry
  | .create r => some (.createBooking r.slotId r.date)
  | .cancel _ id => some (.cancelBooking id)
  | .reschedule _ id slot date => some (.rescheduleBooking id slot.id date)
  | _ => none

/-- An answer that is forced, and the name it is forced by. -/
def forced? : (q : BookingQuery) → Option (String × q.Answer)
  | .create _ => some ("create_full", .full ⟨1, 1⟩)
  | .cancel _ _ => some ("cancel_gone", false)
  | .reschedule _ _ _ _ => some ("reschedule_gone", none)
  | .listDepartments _ | .getDepartment _ _ | .listStaff _ _ | .getStaff _ _ | .listSlots _ _
  | .getSlot _ _ | .availability _ _ _ _ | .listUpcoming _ _ _ | .get _ _ => none

/-- Asks the tables. -/
def consult (now : Instant) (q : BookingQuery) (s : BookingStage) : q.Answer × BookingStage :=
  let r := BookingTables.answer now q s.tables
  (s.veil q r.1, { s with tables := r.2 })

/-- Asks the tables unless an answer is forced. -/
def consultOrForce (now : Instant) (q : BookingQuery) (s : BookingStage) :
    q.Answer × BookingStage :=
  match forced? q with
  | some (name, answer) =>
    let (struck, faults) := s.faults.strike name
    if struck then (answer, { s with faults := faults })
    else consult now q { s with faults := faults }
  | none => consult now q s

/-- Answers a query, or fails if there is a fault. -/
def answer (now : Instant) (q : BookingQuery) (s : BookingStage) :
    Except BookingError q.Answer × BookingStage :=
  let (struck, faults) := s.faults.strike q.operation.name
  if struck then (.error ⟨q.operation, "injected"⟩, { s with faults := faults })
  else
    let r := consultOrForce now q
      { s with faults := faults, trace := s.trace ++ (traceOf? q).toList }
    (.ok r.1, r.2)

/-- Runs work on a context. -/
def run (now : Instant) (w : BookingWork α) (c : Context) (s : BookingStage) :
    (Except BookingError α × Context) × BookingStage :=
  Program.run (answer now) (w c) s

end BookingStage

end Dialogue
