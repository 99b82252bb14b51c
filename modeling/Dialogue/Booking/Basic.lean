import Dialogue.Calendar.Instant
import Dialogue.Ident.Typed
import Dialogue.Workflow

/-!
# Appointments

Departments have staff, and staff have weekly slots that take a number of bookings on each date. A
booking takes one place of a slot on a date. It is cancelled rather than removed.
-/

namespace Dialogue

open FieldReader

/-- A department that can be booked. -/
structure Department where
  id : DepartmentId
  accountId : AccountId
  name : String
  description : Option String
  isActive : Bool
  deriving DecidableEq, Repr

namespace Department

def toJson (d : Department) : Json :=
  .object [("id", .ofInt64 d.id.number), ("account_id", d.accountId.toJson), ("name", .str d.name),
    ("description", .ofOption .str d.description), ("is_active", .bool d.isActive)]

end Department

/-- A member of staff of a department. -/
structure Staff where
  id : StaffId
  accountId : AccountId
  departmentId : DepartmentId
  name : String
  isActive : Bool
  deriving DecidableEq, Repr

namespace Staff

def toJson (s : Staff) : Json :=
  .object [("id", .ofInt64 s.id.number), ("account_id", s.accountId.toJson),
    ("department_id", .ofInt64 s.departmentId.number), ("name", .str s.name),
    ("is_active", .bool s.isActive)]

end Staff

/-- A weekly time of a member of staff. -/
structure TimeSlot where
  id : SlotId
  accountId : AccountId
  staffId : StaffId
  weekday : Weekday
  startTime : TimeOfDay
  capacity : UInt32
  isActive : Bool
  deriving DecidableEq, Repr

namespace TimeSlot

/-- Whether the slot recurs on a date. -/
def occursOn (s : TimeSlot) (date : Date) : Bool := date.weekday == s.weekday

/-- Reads the name of a weekday. -/
def weekday? : Json → Option Weekday
  | .str s => Weekday.ofText? s
  | _ => none

/-- Reads a time of day. -/
def time? : Json → Option TimeOfDay
  | .str s => Calendar.time? s
  | _ => none

def fields : FieldReader TimeSlot := do
  let id ← required ["id"] Json.int64?
  let accountId ← required ["account_id"] (Id.ofJson? .account)
  let staffId ← required ["staff_id"] Json.int64?
  let weekday ← required ["weekday"] weekday?
  let startTime ← required ["start_time"] time?
  let capacity ← required ["capacity"] Json.uint32?
  let isActive ← required ["is_active"] Json.bool?
  return ⟨⟨id⟩, accountId, ⟨staffId⟩, weekday, startTime, capacity, isActive⟩

def ofJson? : Json → Option TimeSlot := Json.record? fields

def toJson (s : TimeSlot) : Json :=
  .object [("id", .ofInt64 s.id.number), ("account_id", s.accountId.toJson),
    ("staff_id", .ofInt64 s.staffId.number), ("weekday", .str s.weekday.shortName),
    ("start_time", .str s.startTime.text), ("capacity", .ofUInt32 s.capacity),
    ("is_active", .bool s.isActive)]

end TimeSlot

/-- Whether a booking stands. -/
inductive BookingStatus where
  | confirmed
  | cancelled
  deriving DecidableEq, Repr

namespace BookingStatus

/-- The stored name. -/
def name : BookingStatus → String
  | .confirmed => "confirmed"
  | .cancelled => "cancelled"

/-- Reads a stored name. -/
def ofName? (s : String) : Option BookingStatus :=
  [("confirmed", confirmed), ("cancelled", cancelled)].lookup s

end BookingStatus

/-- What a booking is made of. -/
structure BookingRequest where
  accountId : AccountId
  departmentId : DepartmentId
  staffId : StaffId
  slotId : SlotId
  phone : String
  customerName : Option String
  date : Date
  time : TimeOfDay
  customAnswer1 : Option String
  customAnswer2 : Option String
  deriving DecidableEq, Repr

/-- A place of a slot that was taken on a date. -/
structure Booking extends BookingRequest where
  id : BookingId
  status : BookingStatus
  createdAt : Instant
  deriving DecidableEq, Repr

namespace Booking

/-- Everything but when the booking was made. -/
def members (b : Booking) : List (String × Json) :=
  [("id", .ofInt64 b.id.number), ("account_id", b.accountId.toJson),
    ("department_id", .ofInt64 b.departmentId.number), ("staff_id", .ofInt64 b.staffId.number),
    ("slot_id", .ofInt64 b.slotId.number), ("phone", .str b.phone),
    ("customer_name", .ofOption .str b.customerName), ("date", b.date.toJson),
    ("time", .str b.time.text), ("custom_answer_1", .ofOption .str b.customAnswer1),
    ("custom_answer_2", .ofOption .str b.customAnswer2), ("status", .str b.status.name)]

def toJson (b : Booking) : Json := .object (b.members ++ [("created_at", b.createdAt.toJson)])

end Booking

/-- How full a time is on a date. -/
structure Availability where
  existing : UInt32
  capacity : UInt32
  deriving DecidableEq, Repr

namespace Availability

/-- Whether there is room. -/
def available (a : Availability) : Bool := a.existing < a.capacity

/-- A time that no slot covers. -/
def uncovered : Availability := ⟨0, 0⟩

def toJson (a : Availability) : Json :=
  .object [("available", .bool a.available), ("existing_count", .ofUInt32 a.existing),
    ("capacity", .ofUInt32 a.capacity)]

end Availability

/-- What came of an attempt to take a place. -/
inductive Placement where
  | created (booking : Booking)
  | full (availability : Availability)
  deriving DecidableEq, Repr

/-- The operations on stored appointments. -/
inductive BookingOperation where
  | listDepartments
  | getDepartment
  | listStaff
  | getStaff
  | listSlots
  | getSlot
  | checkAvailability
  | createBooking
  | listUpcoming
  | getBooking
  | cancelBooking
  | reschedule
  deriving DecidableEq, Repr

/-- The name of an operation in errors. -/
def BookingOperation.name : BookingOperation → String
  | .listDepartments => "list_departments"
  | .getDepartment => "get_department"
  | .listStaff => "list_staff"
  | .getStaff => "get_staff"
  | .listSlots => "list_slots"
  | .getSlot => "get_slot"
  | .checkAvailability => "check_slot_availability"
  | .createBooking => "create_booking"
  | .listUpcoming => "list_upcoming_bookings"
  | .getBooking => "get_booking"
  | .cancelBooking => "cancel_booking"
  | .reschedule => "reschedule_booking"

/-- A failure of the store of appointments. -/
structure BookingError where
  operation : BookingOperation
  reason : String
  deriving DecidableEq, Repr

/-- The failure in words. -/
def BookingError.message (e : BookingError) : String :=
  "booking storage failed during " ++ e.operation.name ++ ": " ++ e.reason

end Dialogue
