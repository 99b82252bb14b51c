import Dialogue.Booking.Occurrence
import Dialogue.Booking.Selection
import Dialogue.Booking.Table
import Dialogue.Conversation.Context
import Dialogue.Program
import Dialogue.Template

/-!
# Booking step by step

A booking node starts a flow, and replies and texts carry it on: department, staff and time are
selected one after another, then questions are answered, and a place is taken. A second kind of
flow lists a participant's bookings and cancels or moves one. What has been selected is kept in the
context; every step answers with messages and with what happens after them. A selection that does
not fit the step, or names something the account does not have, ends the flow. When the store
fails, changes that were already made to the context stay.
-/

namespace Dialogue

/-- Who is booking, the local date and time, and how many days are offered as a rule. -/
structure Visit where
  accountId : AccountId
  phone : String
  today : Date
  now : TimeOfDay
  daysAhead : UInt32
  deriving DecidableEq, Repr

/-- A message of a flow. -/
inductive FlowMessage where
  | text (body : String)
  | list (content : ListMessage)
  deriving DecidableEq, Repr

/-- The outcomes of a flow that edges can leave by. -/
inductive FlowOutcome where
  | booked
  | noSlots
  | noBookings
  | updated
  deriving DecidableEq, Repr

namespace FlowOutcome

/-- The handle of an outcome. -/
def handle : FlowOutcome → String
  | .booked => "booked"
  | .noSlots => "no_slots"
  | .noBookings => "no_bookings"
  | .updated => "updated"

/-- The outcome of a handle. -/
def ofHandle? (s : String) : Option FlowOutcome :=
  [booked, noSlots, noBookings, updated].find? fun o => o.handle == s

end FlowOutcome

/-- What happens after the messages of a step. -/
inductive FlowTransition where
  | awaitReply
  | stop
  | follow (outcome : FlowOutcome)
  deriving DecidableEq, Repr

/-- Messages and what happens after them. -/
structure FlowStep where
  messages : List FlowMessage
  transition : FlowTransition
  deriving DecidableEq, Repr

/-- How a reply was taken. -/
inductive ReplyHandling where
  | notForFlow
  | rejected
  | handled (step : FlowStep)
  deriving DecidableEq, Repr

namespace FlowStep

/-- A message under the name of its kind. -/
def messageJson : FlowMessage → Json
  | .text body => .object [("text", .str body)]
  | .list content => .object [("list", content.toJson)]

/-- What happens after the messages. -/
def transitionJson : FlowTransition → Json
  | .awaitReply => .str "await_reply"
  | .stop => .str "stop"
  | .follow outcome => .object [("follow", .str outcome.handle)]

def toJson (s : FlowStep) : Json :=
  .object [("messages", .arr (s.messages.map messageJson)),
    ("transition", transitionJson s.transition)]

end FlowStep

namespace ReplyHandling

def toJson : ReplyHandling → Json
  | .notForFlow => .str "not_for_flow"
  | .rejected => .str "rejected"
  | .handled step => step.toJson

end ReplyHandling

/-- Work on a context that asks a store of appointments, whose failures end it. -/
abbrev BookingWork (α : Type) :=
  ExceptT BookingError
    (StateT Context (Program BookingQuery fun q => Except BookingError q.Answer)) α

namespace BookingWork

/-- Asks the store. -/
def ask (q : BookingQuery) : BookingWork q.Answer := fun c => .ask q fun r => .done (r, c)

/-- Puts a booking in progress into the context. -/
def keep (p : BookingProgress) : BookingWork Unit := modify fun c => { c with booking := some p }

/-- Puts questions into the context. -/
def keepQuestions (q : Questionnaire) : BookingWork Unit :=
  modify fun c => { c with capture := some q }

/-- Ends what the context is in the middle of. -/
def clear : BookingWork Unit := modify Context.clearProgress

end BookingWork

namespace FlowStep

open BookingWork

/-- A list of rows under a text. -/
def listing (body buttonLabel : String) (sections : List ListSection) : FlowStep :=
  ⟨[.list ⟨none, body, none, buttonLabel, sections⟩], .awaitReply⟩

/-- A list of rows without sections. -/
def choices (body buttonLabel : String) (rows : List ListRow) : FlowStep :=
  listing body buttonLabel [⟨none, rows⟩]

/-- A question. -/
def question (text : String) : FlowStep := ⟨[.text text], .awaitReply⟩

/-- A text that ends the flow. -/
def ending (text : String) : FlowStep := ⟨[.text text], .stop⟩

/-- A text and an outcome. -/
def outcome (text : String) (o : FlowOutcome) : FlowStep := ⟨[.text text], .follow o⟩

/-- An end without a word. -/
def silent : FlowStep := ⟨[], .stop⟩

end FlowStep

/-- The row of a selection. -/
def Selection.row (s : Selection) (title : String) (description : Option String) : ListRow :=
  ⟨s.rowId, title, description⟩

/-- The date and the time of a booking as a participant sees them. -/
def Booking.label (b : Booking) : String := b.date.label ++ " " ++ b.time.label

namespace BookAppointment

/-- The step when nothing can be offered. -/
def nothingToOffer (c : BookAppointment) : FlowStep := .outcome c.noSlotsMessage .noSlots

/-- The key of the name. -/
def nameKey : String := "name"

/-- The key of the first question of one's own. -/
def custom1Key : String := "custom_1"

/-- The key of the second question of one's own. -/
def custom2Key : String := "custom_2"

/-- The questions that are asked before a booking is made. -/
def questions (c : BookAppointment) : List Question :=
  (if c.askName then [⟨nameKey, c.namePrompt⟩] else []) ++
    (c.customQuestion1.map fun q => ⟨custom1Key, q⟩).toList ++
    (c.customQuestion2.map fun q => ⟨custom2Key, q⟩).toList

/-- The step that waits for the answer to a question. -/
def stepOf (q : Question) : BookingStep :=
  if q.key = custom1Key then .enterCustom1
  else if q.key = custom2Key then .enterCustom2
  else .enterName

end BookAppointment

namespace Visit

open BookingWork

variable (v : Visit)

/-- The number of days to offer. -/
def days (configured : Option UInt32) : UInt32 := configured.getD v.daysAhead

/-- The first occurrences, up to a number, that have room. -/
def firstOpen (staff : StaffId) (excluding : Option BookingId) :
    Nat → List Occurrence → BookingWork (List Occurrence)
  | 0, _ => pure []
  | _ + 1, [] => pure []
  | n + 1, o :: r => do
    let room ← ask (.availability staff o.date o.slot.startTime excluding)
    if room.available then
      let more ← firstOpen staff excluding n r
      pure (o :: more)
    else firstOpen staff excluding (n + 1) r

/-- The upcoming times of a member of staff that have room, as many as a list shows. -/
def openTimes (staff : StaffId) (configured : Option UInt32) (excluding : Option BookingId) :
    BookingWork (List Occurrence) := do
  let weekly ← ask (.listSlots v.accountId staff)
  firstOpen staff excluding Occurrence.maxRows
    (Occurrence.upcoming weekly v.today v.now (v.days configured))

/-- A booking that stands and is the participant's own. -/
def ownBooking? (id : BookingId) : BookingWork (Option Booking) := do
  let booking ← ask (.get v.accountId id)
  pure (booking.filter fun b => b.phone == v.phone && b.status == .confirmed)

/-- The variable that tells of a booking. -/
def bookingVariable (b : Booking) (department staff : String) : Json :=
  .object [("id", .ofInt64 b.id.number), ("department", .str department), ("staff", .str staff),
    ("date", .str b.date.label), ("time", .str b.time.label),
    ("name", .ofOption .str b.customerName)]

/-- The scope of a text about a booking. -/
def textScope (c : Context) : Json := .obj (c.vars.insert "phone" (.str v.phone))

/-- Gives the variable `booking` its value and resolves a text. -/
def announce (b : Booking) (text : String) : BookingWork String := do
  let department ← ask (.getDepartment v.accountId b.departmentId)
  let staff ← ask (.getStaff v.accountId b.staffId)
  modify fun c => c.set "booking"
    (bookingVariable b ((department.map Department.name).getD "") ((staff.map Staff.name).getD ""))
  let c ← get
  pure (Template.resolve text (v.textScope c))

/-- Starts a booking: offers the departments. -/
def startBooking (nodeId : NodeId) (c : BookAppointment) : BookingWork FlowStep := do
  clear
  let departments ← ask (.listDepartments v.accountId)
  if departments.isEmpty then
    pure c.nothingToOffer
  else
    keep (.start nodeId (.book c) .selectDepartment)
    pure (.choices c.departmentPrompt "Departments" ((departments.take Occurrence.maxRows).map
      fun d => (Selection.department d.id).row d.name d.description))

/-- The rows that a booking is shown with. -/
def bookingRows (c : CheckBookings) (b : Booking) : List ListRow :=
  (if c.allowReschedule then [(Selection.reschedule b.id).row "Reschedule" none] else []) ++
    (if c.allowCancel then [(Selection.cancel b.id).row "Cancel" none] else [])

/-- The number of rows of a booking. -/
def rowsPerBooking (c : CheckBookings) : Nat := c.allowCancel.toNat + c.allowReschedule.toNat

/-- Bookings listed as a text. -/
def bookingsText (c : CheckBookings) (bookings : List Booking) : String :=
  bookings.foldl (fun text b => text ++ "\n" ++ b.label) c.prompt

/-- Starts showing the participant's bookings. -/
def startCheck (nodeId : NodeId) (c : CheckBookings) : BookingWork FlowStep := do
  clear
  let bookings ← ask (.listUpcoming v.accountId v.phone v.today)
  if bookings.isEmpty then
    pure (.outcome c.noBookingsMessage .noBookings)
  else if !c.allowCancel && !c.allowReschedule then
    pure (.ending (bookingsText c bookings))
  else
    keep (.start nodeId (.check c) .selectBooking)
    pure (.listing c.prompt "Bookings"
      ((bookings.take (Occurrence.maxRows / rowsPerBooking c)).map
        fun b => ⟨some b.label, bookingRows c b⟩))

/-- Offers the staff of a department. -/
def selectDepartment (p : BookingProgress) (c : BookAppointment) (id : DepartmentId) :
    BookingWork (Option FlowStep) := do
  let some department ← ask (.getDepartment v.accountId id) | pure none
  let staff ← ask (.listStaff v.accountId department.id)
  if staff.isEmpty then
    clear
    pure (some c.nothingToOffer)
  else
    keep { p.atStep .selectStaff with departmentId := some department.id }
    pure (some (.choices c.staffPrompt "Staff" ((staff.take Occurrence.maxRows).map
      fun s => (Selection.staff s.id).row s.name none)))

/-- Offers the times of a member of staff. -/
def selectStaff (p : BookingProgress) (c : BookAppointment) (id : StaffId) :
    BookingWork (Option FlowStep) := do
  let some staff ← ask (.getStaff v.accountId id) | pure none
  if some staff.departmentId ≠ p.departmentId then
    pure none
  else
    let times ← v.openTimes staff.id c.daysAhead none
    if times.isEmpty then
      clear
      pure (some c.nothingToOffer)
    else
      keep { p.atStep .selectSlot with staffId := some staff.id }
      pure (some (.choices c.slotPrompt "Times"
        (times.map fun o => (Selection.slot o.slot.id o.date).row o.label none)))

/-- The request for what was selected and answered. -/
def request (department : DepartmentId) (slot : TimeSlot) (date : Date)
    (answers : Option Questionnaire) : BookingRequest where
  accountId := v.accountId
  departmentId := department
  staffId := slot.staffId
  slotId := slot.id
  phone := v.phone
  customerName := answers.bind fun q => q.answer? BookAppointment.nameKey
  date := date
  time := slot.startTime
  customAnswer1 := answers.bind fun q => q.answer? BookAppointment.custom1Key
  customAnswer2 := answers.bind fun q => q.answer? BookAppointment.custom2Key

/-- Takes a place in a slot if it still has room. -/
def place (c : BookAppointment) (department : DepartmentId) (slot : TimeSlot) (date : Date)
    (answers : Option Questionnaire) : BookingWork FlowStep := do
  let room ← ask (.availability slot.staffId date slot.startTime none)
  if room.available then
    match ← ask (.create (v.request department slot date answers)) with
    | .full _ => pure (.ending c.unavailableMessage)
    | .created booking =>
      let text ← v.announce booking c.confirmationMessage
      pure (.outcome text .booked)
  else pure (.ending c.unavailableMessage)

/-- Ends the questions and makes the booking. -/
def complete (p : BookingProgress) (c : BookAppointment) (answers : Option Questionnaire) :
    BookingWork FlowStep := do
  clear
  match p.departmentId, p.slotId, p.date with
  | some department, some slotId, some date =>
    let some slot ← ask (.getSlot v.accountId slotId) | pure .silent
    v.place c department slot date answers
  | _, _, _ => pure .silent

/-- Whether a slot is one that was offered: of the selected staff, on a date that is not past. -/
def fits (p : BookingProgress) (slot : TimeSlot) (date : Date) : Bool :=
  some slot.staffId == p.staffId && slot.occursOn date && decide (v.today ≤ date)

/-- Takes a time: asks the first question, or makes the booking where there is none. -/
def selectSlot (p : BookingProgress) (c : BookAppointment) (id : SlotId) (date : Date) :
    BookingWork (Option FlowStep) := do
  let some slot ← ask (.getSlot v.accountId id) | pure none
  if v.fits p slot date then
    let room ← ask (.availability slot.staffId date slot.startTime none)
    if room.available then
      let chosen := { p.atStep .selectSlot with slotId := some slot.id, date := some date }
      match c.questions with
      | [] =>
        let step ← v.complete chosen c none
        pure (some step)
      | first :: rest =>
        keepQuestions (.start p.nodeId (first :: rest))
        keep (chosen.atStep (BookAppointment.stepOf first))
        pure (some (.question first.text))
    else
      clear
      pure (some (.ending c.unavailableMessage))
  else pure none

/-- Cancels a booking. -/
def cancel (c : CheckBookings) (id : BookingId) : BookingWork (Option FlowStep) := do
  let some booking ← v.ownBooking? id | pure none
  let done ← ask (.cancel v.accountId booking.id)
  if done then
    clear
    let text ← v.announce booking c.cancelledMessage
    pure (some (.outcome text .updated))
  else pure none

/-- Offers the other times of a booking's member of staff. -/
def startReschedule (p : BookingProgress) (c : CheckBookings) (id : BookingId) :
    BookingWork (Option FlowStep) := do
  let some booking ← v.ownBooking? id | pure none
  let times ← v.openTimes booking.staffId c.daysAhead (some booking.id)
  let others := times.filter fun o => o.date != booking.date || o.slot.startTime != booking.time
  if others.isEmpty then
    clear
    pure (some (.ending c.unavailableMessage))
  else
    keep { p.atStep .selectNewSlot with
      bookingId := some booking.id, staffId := some booking.staffId }
    pure (some (.choices c.slotPrompt "Times"
      (others.map fun o => (Selection.newSlot o.slot.id o.date).row o.label none)))

/-- Moves a booking to another time. -/
def selectNewSlot (p : BookingProgress) (c : CheckBookings) (id : SlotId) (date : Date) :
    BookingWork (Option FlowStep) := do
  let some bookingId := p.bookingId | pure none
  let some slot ← ask (.getSlot v.accountId id) | pure none
  if v.fits p slot date then
    let some _ ← v.ownBooking? bookingId | pure none
    let placement ← ask (.reschedule v.accountId bookingId slot date)
    clear
    match placement with
    | none => pure none
    | some (.full _) => pure (some (.ending c.unavailableMessage))
    | some (.created booking) =>
      let text ← v.announce booking c.rescheduledMessage
      pure (some (.outcome text .updated))
  else pure none

/-- The step that a selection leads to, if it fits. -/
def select (p : BookingProgress) : BookingFlow → BookingStep → Selection →
    BookingWork (Option FlowStep)
  | .book c, .selectDepartment, .department id => v.selectDepartment p c id
  | .book c, .selectStaff, .staff id => v.selectStaff p c id
  | .book c, .selectSlot, .slot id date => v.selectSlot p c id date
  | .check c, .selectBooking, .cancel id => if c.allowCancel then v.cancel c id else pure none
  | .check c, .selectBooking, .reschedule id =>
    if c.allowReschedule then v.startReschedule p c id else pure none
  | .check c, .selectNewSlot, .newSlot id date => v.selectNewSlot p c id date
  | _, _, _ => pure none

/-- Takes a selection for a booking in progress; one that does not fit ends it. -/
def takeSelection (p : BookingProgress) (s : Selection) : BookingWork ReplyHandling := do
  match ← v.select p p.flow p.step s with
  | some step => pure (.handled step)
  | none =>
    clear
    pure .rejected

/-- Takes a reply. -/
def takeReply (replyId : String) : BookingWork ReplyHandling := do
  match Selection.parse? replyId, (← get).booking with
  | some s, some p => v.takeSelection p s
  | _, _ => pure .notForFlow

/-- Takes the answer to a question: asks the next one, or makes the booking. -/
def takeAnswer (p : BookingProgress) (c : BookAppointment) (q : Questionnaire) :
    BookingWork FlowStep :=
  match q.current? with
  | some next => do
    keep (p.atStep (BookAppointment.stepOf next))
    keepQuestions q
    pure (.question next.text)
  | none => v.complete p c (some q)

/-- Takes a text, if the booking in progress waits for one. -/
def takeText (text : String) : BookingWork (Option FlowStep) := do
  let c ← get
  match c.booking, c.capture with
  | some p, some q =>
    match p.step.awaitsText, p.flow with
    | true, .book settings =>
      let step ← v.takeAnswer p settings (q.answered (Text.trim text))
      pure (some step)
    | _, _ => pure none
  | _, _ => pure none

end Visit

end Dialogue
