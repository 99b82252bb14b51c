import Dialogue.Storage.Database

/-!
# Stored appointments

Departments, staff, slots and bookings in a database. Whoever takes a place or moves a booking
first locks the row of the slot, so that of two customers at once the second sees the place of the
first. A place is taken only if the slot serves the time that is asked for and still has room.
-/

namespace Dialogue

open RowReader DatabaseWork

namespace Storage

/-- Reads the columns of a department. -/
def departmentRow : RowReader (Except DatabaseError Department) := do
  let id ← column "id" SqlValue.bigint?
  let account ← column "account_id" SqlValue.text?
  let name ← column "name" SqlValue.text?
  let description ← column "description" (SqlValue.nullable? SqlValue.text?)
  let isActive ← column "is_active" SqlValue.boolean?
  return do
    let accountId ← readAccount account
    return ⟨⟨id⟩, accountId, name, description, isActive⟩

/-- Reads the columns of a member of staff. -/
def staffRow : RowReader (Except DatabaseError Staff) := do
  let id ← column "id" SqlValue.bigint?
  let account ← column "account_id" SqlValue.text?
  let department ← column "department_id" SqlValue.bigint?
  let name ← column "name" SqlValue.text?
  let isActive ← column "is_active" SqlValue.boolean?
  return do
    let accountId ← readAccount account
    return ⟨⟨id⟩, accountId, ⟨department⟩, name, isActive⟩

/-- The weekday of a number; Monday is 0. -/
def readWeekday (n : Int16) : Except DatabaseError Weekday :=
  match if 0 ≤ n then Weekday.ofIndex? n.toInt.toNat else none with
  | some d => .ok d
  | none => .error (.invalid "weekday" (Text.intText n.toInt) "out of range")

/-- The capacity of a slot, which is not negative. -/
def readCapacity (n : Int32) : Except DatabaseError UInt32 :=
  if 0 ≤ n then .ok n.toUInt32
  else
    .error (.invalid "capacity" (Text.intText n.toInt) Text.IntegerError.tooSmall.message)

/-- Reads the columns of a slot. -/
def slotRow : RowReader (Except DatabaseError TimeSlot) := do
  let id ← column "id" SqlValue.bigint?
  let account ← column "account_id" SqlValue.text?
  let staff ← column "staff_id" SqlValue.bigint?
  let weekday ← column "weekday" SqlValue.smallint?
  let startTime ← column "start_time" SqlValue.time?
  let capacity ← column "capacity" SqlValue.integer?
  let isActive ← column "is_active" SqlValue.boolean?
  return do
    let day ← readWeekday weekday
    let places ← readCapacity capacity
    let accountId ← readAccount account
    return ⟨⟨id⟩, accountId, ⟨staff⟩, day, startTime, places, isActive⟩

/-- The status of a name. -/
def readStatus (name : String) : Except DatabaseError BookingStatus :=
  match BookingStatus.ofName? name with
  | some s => .ok s
  | none => .error (.invalid "booking status" name "unknown status")

/-- Reads the columns of a booking. -/
def bookingRow : RowReader (Except DatabaseError Booking) := do
  let id ← column "id" SqlValue.bigint?
  let account ← column "account_id" SqlValue.text?
  let department ← column "department_id" SqlValue.bigint?
  let staff ← column "staff_id" SqlValue.bigint?
  let slot ← column "slot_id" SqlValue.bigint?
  let phone ← column "phone" SqlValue.text?
  let customerName ← column "customer_name" (SqlValue.nullable? SqlValue.text?)
  let date ← column "booking_date" SqlValue.date?
  let time ← column "booking_time" SqlValue.time?
  let answer1 ← column "custom_answer_1" (SqlValue.nullable? SqlValue.text?)
  let answer2 ← column "custom_answer_2" (SqlValue.nullable? SqlValue.text?)
  let status ← column "status" SqlValue.text?
  let createdAt ← column "created_at" SqlValue.timestamp?
  return do
    let standing ← readStatus status
    let accountId ← readAccount account
    return ⟨⟨accountId, ⟨department⟩, ⟨staff⟩, ⟨slot⟩, phone, customerName, date, time, answer1,
      answer2⟩, ⟨id⟩, standing, createdAt⟩

/-- What a slot that is locked says. -/
structure LockedSlot where
  staffId : StaffId
  weekday : Int16
  startTime : TimeOfDay
  capacity : Int32
  deriving DecidableEq, Repr

namespace LockedSlot

/-- Reads the columns of a slot that is locked. -/
def row : RowReader LockedSlot := do
  let staff ← column "staff_id" SqlValue.bigint?
  let weekday ← column "weekday" SqlValue.smallint?
  let startTime ← column "start_time" SqlValue.time?
  let capacity ← column "capacity" SqlValue.integer?
  return ⟨⟨staff⟩, weekday, startTime, capacity⟩

/-- Whether the slot is of a member of staff and begins at a time of a date. -/
def serves (s : LockedSlot) (staff : StaffId) (date : Date) (time : TimeOfDay) : Bool :=
  s.staffId == staff && s.weekday == Statement.weekdayNumber date.weekday && s.startTime == time

end LockedSlot

/-- The places of a capacity; a negative one has none. -/
def places (capacity : Int32) : UInt32 := if 0 ≤ capacity then capacity.toUInt32 else 0

/-- A count in 32 bits; one that does not fit counts as the largest. -/
def count (n : Int64) : UInt32 :=
  if 0 ≤ n && n ≤ 4294967295 then .ofNat n.toInt.toNat else 4294967295

/-- The number of places taken at a time, one booking left out. -/
def confirmedCount (staff : StaffId) (date : Date) (time : TimeOfDay)
    (excluding : Option BookingId) : DatabaseWork UInt32 := do
  let n ← fetchOne (.countConfirmed staff date time excluding) (scalar SqlValue.bigint?)
  return count n

/-- How full a time is, its slot locked until the transaction ends. -/
def lockedAvailability (slot : SlotId) (staff : StaffId) (date : Date) (time : TimeOfDay)
    (excluding : Option BookingId) : DatabaseWork Availability := do
  match ← fetchOptional (.lockSlot slot) LockedSlot.row with
  | none => return .uncovered
  | some locked =>
    if locked.serves staff date time then
      let existing ← confirmedCount staff date time excluding
      return ⟨existing, places locked.capacity⟩
    else return .uncovered

/-- How full a time is. -/
def availability (staff : StaffId) (date : Date) (time : TimeOfDay)
    (excluding : Option BookingId) : DatabaseWork Availability := do
  let slot ← fetchOptional (.capacity staff date.weekday time) (scalar SqlValue.integer?)
  match slot with
  | none => return .uncovered
  | some capacity =>
    let existing ← confirmedCount staff date time excluding
    return ⟨existing, places capacity⟩

/-- The booking that a statement writes. -/
def writtenBooking (s : Statement) : DatabaseWork Booking := do
  settled (← fetchOne s bookingRow)

/-- Takes a place if there is room. -/
def createBooking (r : BookingRequest) : DatabaseWork Placement :=
  inTransaction do
    let room ← lockedAvailability r.slotId r.staffId r.date r.time none
    if room.available then
      let booking ← writtenBooking (.insertBooking r)
      return (.commit, .created booking)
    else return (.rollback, .full room)

/-- Moves a booking that stands if there is room at the new time. -/
def rescheduleBooking (account : AccountId) (id : BookingId) (slot : TimeSlot) (date : Date) :
    DatabaseWork (Option Placement) :=
  inTransaction do
    match ← fetchOptional (.lockBooking account id) (scalar SqlValue.bigint?) with
    | none => return (.rollback, none)
    | some _ =>
      let room ← lockedAvailability slot.id slot.staffId date slot.startTime (some id)
      if room.available then
        let booking ← writtenBooking (.moveBooking account id slot date)
        return (.commit, some (.created booking))
      else return (.rollback, some (.full room))

/-- The things that a statement finds. -/
def listed (s : Statement) (read : RowReader (Except DatabaseError α)) :
    DatabaseWork (List α) := do
  settled ((← fetchAll s read).mapM id)

/-- The thing that a statement finds. -/
def found (s : Statement) (read : RowReader (Except DatabaseError α)) :
    DatabaseWork (Option α) := do
  settled ((← fetchOptional s read).mapM id)

/-- Cancels a booking that stands; tells whether there was one. -/
def cancelBooking (account : AccountId) (id : BookingId) : DatabaseWork Bool := do
  return (← execute (.cancelBooking account id)).affected == 1

/-- The work of a query. -/
def answer : (q : BookingQuery) → DatabaseWork q.Answer
  | .listDepartments account => listed (.departments account) departmentRow
  | .getDepartment account id => found (.department account id) departmentRow
  | .listStaff account department => listed (.staffOf account department) staffRow
  | .getStaff account id => found (.staffMember account id) staffRow
  | .listSlots account staff => listed (.slotsOf account staff) slotRow
  | .getSlot account id => found (.slot account id) slotRow
  | .availability staff date time excluding => availability staff date time excluding
  | .create request => createBooking request
  | .listUpcoming account phone date => listed (.bookingsFrom account phone date) bookingRow
  | .get account id => found (.booking account id) bookingRow
  | .cancel account id => cancelBooking account id
  | .reschedule account id slot date => rescheduleBooking account id slot date

/-- Asks the store of appointments. -/
def booking (q : BookingQuery) : StoreWork BookingError q.Answer :=
  ExceptT.adapt (fun e => ⟨q.operation, e.message⟩) (answer q)

end Storage

end Dialogue
