import Dialogue.Calendar.Reader
import Dialogue.Graph.Appointment
import Dialogue.Graph.Node
import Dialogue.Workflow

/-!
# Conversation contexts

A context is stored as one object. Most of its keys are variables; two are reserved for what a
participant is in the middle of: a booking, and questions that want a text as their answer. These
two are only replaced or cleared as a whole, and one that cannot be read is dropped, so a
conversation never gets stuck on it.
-/

namespace Dialogue

open FieldReader

/-- What a booking waits for. -/
inductive BookingStep where
  | selectDepartment
  | selectStaff
  | selectSlot
  | enterName
  | enterCustom1
  | enterCustom2
  | selectBooking
  | selectNewSlot
  deriving DecidableEq, Repr

namespace BookingStep

/-- The steps and their names in documents. -/
def table : List (String × BookingStep) :=
  [("select_department", .selectDepartment), ("select_staff", .selectStaff),
    ("select_slot", .selectSlot), ("enter_name", .enterName), ("enter_custom1", .enterCustom1),
    ("enter_custom2", .enterCustom2), ("select_booking", .selectBooking),
    ("select_new_slot", .selectNewSlot)]

/-- The name in documents. -/
def name : BookingStep → String
  | .selectDepartment => "select_department"
  | .selectStaff => "select_staff"
  | .selectSlot => "select_slot"
  | .enterName => "enter_name"
  | .enterCustom1 => "enter_custom1"
  | .enterCustom2 => "enter_custom2"
  | .selectBooking => "select_booking"
  | .selectNewSlot => "select_new_slot"

/-- Reads a name. -/
def ofJson? : Json → Option BookingStep := Json.choice? table

/-- Whether the step waits for a text rather than a reply. -/
def awaitsText : BookingStep → Bool
  | .enterName | .enterCustom1 | .enterCustom2 => true
  | _ => false

end BookingStep

/-- The node that a booking was started by. -/
inductive BookingFlow where
  | book (settings : BookAppointment)
  | check (settings : CheckBookings)
  deriving DecidableEq, Repr

namespace BookingFlow

/-- Reads the settings of a kind of flow. -/
def ofSettings? (isCheck : Bool) (j : Json) : Option BookingFlow :=
  if isCheck then (CheckBookings.ofJson? j).map .check else (BookAppointment.ofJson? j).map .book

/-- Reads a flow: its kind and its settings. -/
def ofJson? : Json → Option BookingFlow := Json.record? do
  let isCheck ← required ["kind"] (Json.choice? [("book", false), ("check", true)])
  required ["config"] (ofSettings? isCheck)

def toJson : BookingFlow → Json
  | .book settings => .object [("kind", .str "book"), ("config", settings.toJson)]
  | .check settings => .object [("kind", .str "check"), ("config", settings.toJson)]

end BookingFlow

/-- How far a participant has come in a booking. -/
structure BookingProgress where
  step : BookingStep
  nodeId : NodeId
  flow : BookingFlow
  departmentId : Option DepartmentId
  staffId : Option StaffId
  slotId : Option SlotId
  date : Option Date
  bookingId : Option BookingId
  deriving DecidableEq, Repr

namespace BookingProgress

/-- A booking at a step, with nothing selected. -/
def start (nodeId : NodeId) (flow : BookingFlow) (step : BookingStep) : BookingProgress :=
  ⟨step, nodeId, flow, none, none, none, none, none⟩

/-- The booking at another step. -/
def atStep (p : BookingProgress) (step : BookingStep) : BookingProgress := { p with step := step }

def fields : FieldReader BookingProgress := do
  let step ← required ["step"] BookingStep.ofJson?
  let nodeId ← required ["nodeId"] Json.str?
  let flow ← required ["flow"] BookingFlow.ofJson?
  let departmentId ← FieldReader.optional ["departmentId"] Json.int64?
  let staffId ← FieldReader.optional ["staffId"] Json.int64?
  let slotId ← FieldReader.optional ["slotId"] Json.int64?
  let date ← FieldReader.optional ["date"] Date.ofJson?
  let bookingId ← FieldReader.optional ["bookingId"] Json.int64?
  return ⟨step, nodeId, flow, departmentId.map .mk, staffId.map .mk, slotId.map .mk, date,
    bookingId.map .mk⟩

def ofJson? : Json → Option BookingProgress := Json.record? fields

def toJson (p : BookingProgress) : Json :=
  .object ([("step", .str p.step.name), ("nodeId", .str p.nodeId), ("flow", p.flow.toJson)] ++
    Json.member? "departmentId" (fun d => .ofInt64 d.number) p.departmentId ++
    Json.member? "staffId" (fun s => .ofInt64 s.number) p.staffId ++
    Json.member? "slotId" (fun s => .ofInt64 s.number) p.slotId ++
    Json.member? "date" Date.toJson p.date ++
    Json.member? "bookingId" (fun b => .ofInt64 b.number) p.bookingId)

end BookingProgress

/-- A question that wants a text. -/
structure Question where
  key : String
  text : String
  deriving DecidableEq, Repr

namespace Question

def fields : FieldReader Question := do
  return ⟨← required ["key"] Json.str?, ← required ["question"] Json.str?⟩

def ofJson? : Json → Option Question := Json.record? fields

def toJson (q : Question) : Json := .object [("key", .str q.key), ("question", .str q.text)]

end Question

/-- A question and its answer. -/
structure Answer where
  question : Question
  value : String
  deriving DecidableEq, Repr

namespace Answer

def fields : FieldReader Answer := do
  let question ← Question.fields
  return ⟨question, ← required ["value"] Json.str?⟩

def ofJson? : Json → Option Answer := Json.record? fields

def toJson (a : Answer) : Json :=
  .object [("key", .str a.question.key), ("question", .str a.question.text),
    ("value", .str a.value)]

end Answer

/-- Questions that are asked one after another on behalf of a node. -/
structure Questionnaire where
  nodeId : NodeId
  pending : List Question
  answers : List Answer
  deriving DecidableEq, Repr

namespace Questionnaire

/-- Questions without answers. -/
def start (nodeId : NodeId) (pending : List Question) : Questionnaire := ⟨nodeId, pending, []⟩

/-- The question that waits for its answer. -/
def current? (q : Questionnaire) : Option Question := q.pending.head?

/-- Answers the question that waits, if there is one. -/
def answered (q : Questionnaire) (value : String) : Questionnaire :=
  match q.pending with
  | [] => q
  | question :: rest => { q with pending := rest, answers := q.answers ++ [⟨question, value⟩] }

/-- Whether every question has an answer. -/
def isComplete (q : Questionnaire) : Bool := q.pending.isEmpty

/-- The first answer to a question of a key. -/
def answer? (q : Questionnaire) (key : String) : Option String :=
  (q.answers.find? fun a => a.question.key == key).map Answer.value

def fields : FieldReader Questionnaire := do
  let nodeId ← required ["nodeId"] Json.str?
  let pending ← required ["pending"] (Json.list? Question.ofJson?)
  let answers ← withDefault ["answers"] [] (Json.list? Answer.ofJson?)
  return ⟨nodeId, pending, answers⟩

def ofJson? : Json → Option Questionnaire := Json.record? fields

def toJson (q : Questionnaire) : Json :=
  .object [("nodeId", .str q.nodeId), ("pending", .arr (q.pending.map Question.toJson)),
    ("answers", .arr (q.answers.map Answer.toJson))]

end Questionnaire

/-- The variables of a conversation and what its participant is in the middle of. -/
structure Context where
  vars : Members
  booking : Option BookingProgress
  capture : Option Questionnaire
  deriving DecidableEq, Repr

namespace Context

/-- The key of a booking in progress. -/
def bookingKey : String := "bookingState"

/-- The key of questions in progress. -/
def captureKey : String := "captureState"

/-- Whether a key is no variable's. -/
def isReserved (key : String) : Bool := key == bookingKey || key == captureKey

/-- A context without variables. -/
def empty : Context := ⟨[], none, none⟩

instance : Inhabited Context := ⟨empty⟩

/-- The value of a variable. -/
def get? (c : Context) (key : String) : Option Json := c.vars.get? key

/-- Gives a variable a value; a reserved key is passed over. -/
def set (c : Context) (key : String) (value : Json) : Context :=
  if isReserved key then c else { c with vars := c.vars.insert key value }

/-- Takes a variable away. -/
def remove (c : Context) (key : String) : Context := { c with vars := c.vars.erase key }

/-- Gives variables values, one after another. -/
def merge (c : Context) (values : Members) : Context :=
  values.foldl (fun c p => c.set p.1 p.2) c

/-- Ends the booking and the questions in progress. -/
def clearProgress (c : Context) : Context := { c with booking := none, capture := none }

/-- Reads a stored object. -/
def ofMembers (m : Members) : Context where
  vars := (m.erase captureKey).erase bookingKey
  booking := (m.get? bookingKey).bind BookingProgress.ofJson?
  capture := (m.get? captureKey).bind Questionnaire.ofJson?

/-- Puts a value under a key, if there is one. -/
def insert? (m : Members) (key : String) : Option Json → Members
  | some v => m.insert key v
  | none => m

/-- The object that is stored. -/
def members (c : Context) : Members :=
  insert? (insert? c.vars bookingKey (c.booking.map BookingProgress.toJson)) captureKey
    (c.capture.map Questionnaire.toJson)

def ofJson? : Json → Option Context
  | .obj m => some (ofMembers m)
  | _ => none

def toJson (c : Context) : Json := .obj c.members

end Context

end Dialogue
