import Dialogue.Booking.Basic

/-!
# Tables of appointments

What can be asked of a store of appointments, and tables in memory that answer it. Things are
looked up within an account, so the number of another account's thing finds nothing. A place is
taken only where a time still has room; room is counted over all bookings of a member of staff at
that time. One sequence numbers everything that is added.
-/

namespace Dialogue

/-- What can be asked of a store of appointments. -/
inductive BookingQuery where
  | listDepartments (account : AccountId)
  | getDepartment (account : AccountId) (id : DepartmentId)
  | listStaff (account : AccountId) (department : DepartmentId)
  | getStaff (account : AccountId) (id : StaffId)
  | listSlots (account : AccountId) (staff : StaffId)
  | getSlot (account : AccountId) (id : SlotId)
  | availability (staff : StaffId) (date : Date) (time : TimeOfDay) (excluding : Option BookingId)
  | create (request : BookingRequest)
  | listUpcoming (account : AccountId) (phone : String) («from» : Date)
  | get (account : AccountId) (id : BookingId)
  | cancel (account : AccountId) (id : BookingId)
  | reschedule (account : AccountId) (id : BookingId) (slot : TimeSlot) (date : Date)
  deriving DecidableEq, Repr

namespace BookingQuery

/-- What a query is answered with. -/
abbrev Answer : BookingQuery → Type
  | .listDepartments _ => List Department
  | .getDepartment _ _ => Option Department
  | .listStaff _ _ => List Staff
  | .getStaff _ _ => Option Staff
  | .listSlots _ _ => List TimeSlot
  | .getSlot _ _ => Option TimeSlot
  | .availability _ _ _ _ => Availability
  | .create _ => Placement
  | .listUpcoming _ _ _ => List Booking
  | .get _ _ => Option Booking
  | .cancel _ _ => Bool
  | .reschedule _ _ _ _ => Option Placement

/-- The operation of a query. -/
def operation : BookingQuery → BookingOperation
  | .listDepartments _ => .listDepartments
  | .getDepartment _ _ => .getDepartment
  | .listStaff _ _ => .listStaff
  | .getStaff _ _ => .getStaff
  | .listSlots _ _ => .listSlots
  | .getSlot _ _ => .getSlot
  | .availability _ _ _ _ => .checkAvailability
  | .create _ => .createBooking
  | .listUpcoming _ _ _ => .listUpcoming
  | .get _ _ => .getBooking
  | .cancel _ _ => .cancelBooking
  | .reschedule _ _ _ _ => .reschedule

/-- A placement, its booking written by `form`. -/
def placementJson (form : Booking → Json) : Placement → Json
  | .created booking => .object [("created", form booking)]
  | .full room => .object [("full", room.toJson)]

/-- An answer, its bookings written by `form`. -/
def answerJson (form : Booking → Json) : (q : BookingQuery) → q.Answer → Json
  | .listDepartments _, l => .arr (l.map Department.toJson)
  | .getDepartment _ _, d => .ofOption Department.toJson d
  | .listStaff _ _, l => .arr (l.map Staff.toJson)
  | .getStaff _ _, s => .ofOption Staff.toJson s
  | .listSlots _ _, l => .arr (l.map TimeSlot.toJson)
  | .getSlot _ _, s => .ofOption TimeSlot.toJson s
  | .availability _ _ _ _, a => a.toJson
  | .create _, p => placementJson form p
  | .listUpcoming _ _ _, l => .arr (l.map form)
  | .get _ _, b => .ofOption form b
  | .cancel _ _, done => .bool done
  | .reschedule _ _ _ _, p => .ofOption (placementJson form) p

end BookingQuery

/-- Departments, staff, slots and bookings, each in the order they were added. -/
structure BookingTables where
  departments : List Department
  staff : List Staff
  slots : List TimeSlot
  bookings : List Booking
  lastNumber : Int64
  deriving Repr

namespace BookingTables

/-- Tables without rows. -/
def empty : BookingTables := ⟨[], [], [], [], 0⟩

/-- Adds a department. -/
def addDepartment (t : BookingTables) (account : AccountId) (name : String)
    (description : Option String) : Department × BookingTables :=
  let d : Department := ⟨⟨t.lastNumber + 1⟩, account, name, description, true⟩
  (d, { t with departments := t.departments ++ [d], lastNumber := t.lastNumber + 1 })

/-- Adds a member of staff. -/
def addStaff (t : BookingTables) (account : AccountId) (department : DepartmentId)
    (name : String) : Staff × BookingTables :=
  let s : Staff := ⟨⟨t.lastNumber + 1⟩, account, department, name, true⟩
  (s, { t with staff := t.staff ++ [s], lastNumber := t.lastNumber + 1 })

/-- Adds a weekly slot. -/
def addSlot (t : BookingTables) (account : AccountId) (staff : StaffId) (weekday : Weekday)
    (startTime : TimeOfDay) (capacity : UInt32) : TimeSlot × BookingTables :=
  let s : TimeSlot := ⟨⟨t.lastNumber + 1⟩, account, staff, weekday, startTime, capacity, true⟩
  (s, { t with slots := t.slots ++ [s], lastNumber := t.lastNumber + 1 })

/-- The slot that covers a time on a date: the first active one of the member of staff. -/
def covering? (t : BookingTables) (staff : StaffId) (date : Date) (time : TimeOfDay) :
    Option TimeSlot :=
  t.slots.find? fun s =>
    s.isActive && s.staffId == staff && s.startTime == time && s.occursOn date

/-- Whether a booking takes a place at a time. -/
def takes (b : Booking) (staff : StaffId) (date : Date) (time : TimeOfDay) : Bool :=
  b.status == .confirmed && b.staffId == staff && b.date == date && b.time == time

/-- The number of places taken at a time, one booking left out. -/
def taken (t : BookingTables) (staff : StaffId) (date : Date) (time : TimeOfDay)
    (excluding : Option BookingId) : Nat :=
  t.bookings.countP fun b => takes b staff date time && some b.id != excluding

/-- A count that fits 32 bits; larger ones count as the largest. -/
def clamp (n : Nat) : UInt32 := if n < 4294967296 then .ofNat n else .ofNat 4294967295

/-- How full a time is. -/
def availability (t : BookingTables) (staff : StaffId) (date : Date) (time : TimeOfDay)
    (excluding : Option BookingId) : Availability :=
  match t.covering? staff date time with
  | some slot => ⟨clamp (t.taken staff date time excluding), slot.capacity⟩
  | none => .uncovered

/-- Takes a place if there is room. -/
def create (t : BookingTables) (r : BookingRequest) (now : Instant) : Placement × BookingTables :=
  let room := t.availability r.staffId r.date r.time none
  if room.available then
    let b : Booking := { r with id := ⟨t.lastNumber + 1⟩, status := .confirmed, createdAt := now }
    (.created b, { t with bookings := t.bookings ++ [b], lastNumber := t.lastNumber + 1 })
  else (.full room, t)

/-- Whether a booking of an account stands under a number. -/
def stands (account : AccountId) (id : BookingId) (b : Booking) : Bool :=
  b.id == id && b.accountId == account && b.status == .confirmed

/-- Changes the first booking that a test finds. -/
def updateFirst (p : Booking → Bool) (f : Booking → Booking) : List Booking → List Booking
  | [] => []
  | b :: r => if p b then f b :: r else b :: updateFirst p f r

/-- Changes the first booking of the tables that a test finds. -/
def update (t : BookingTables) (p : Booking → Bool) (f : Booking → Booking) : BookingTables :=
  { t with bookings := updateFirst p f t.bookings }

/-- Cancels a booking that stands. -/
def cancel (t : BookingTables) (account : AccountId) (id : BookingId) : Bool × BookingTables :=
  if t.bookings.any (stands account id) then
    (true, t.update (stands account id) fun b => { b with status := .cancelled })
  else (false, t)

/-- A booking at another time. -/
def moved (b : Booking) (slot : TimeSlot) (date : Date) : Booking :=
  { b with slotId := slot.id, staffId := slot.staffId, date := date, time := slot.startTime }

/-- Moves a booking that stands if there is room at the new time. -/
def reschedule (t : BookingTables) (account : AccountId) (id : BookingId) (slot : TimeSlot)
    (date : Date) : Option Placement × BookingTables :=
  match t.bookings.find? (stands account id) with
  | none => (none, t)
  | some b =>
    let room := t.availability slot.staffId date slot.startTime (some id)
    if room.available then
      (some (.created (moved b slot date)),
        t.update (stands account id) fun b => moved b slot date)
    else (some (.full room), t)

/-- Whether a booking is dated before another or beside it. -/
def sooner (a b : Booking) : Bool := a.date < b.date || (a.date == b.date && a.time ≤ b.time)

/-- The bookings of a phone that stand, from a date on. -/
def upcoming (t : BookingTables) (account : AccountId) (phone : String) (date : Date) :
    List Booking :=
  (t.bookings.filter fun b =>
    b.accountId == account && b.phone == phone && b.status == .confirmed &&
      decide (date ≤ b.date)).mergeSort sooner

/-- Answers a query. -/
def answer (now : Instant) : (q : BookingQuery) → BookingTables → q.Answer × BookingTables
  | .listDepartments account, t =>
    (t.departments.filter fun d => d.accountId == account && d.isActive, t)
  | .getDepartment account id, t =>
    (t.departments.find? fun d => d.id == id && d.accountId == account && d.isActive, t)
  | .listStaff account department, t =>
    (t.staff.filter fun s =>
      s.accountId == account && s.departmentId == department && s.isActive, t)
  | .getStaff account id, t =>
    (t.staff.find? fun s => s.id == id && s.accountId == account && s.isActive, t)
  | .listSlots account staff, t =>
    (t.slots.filter fun s => s.accountId == account && s.staffId == staff && s.isActive, t)
  | .getSlot account id, t =>
    (t.slots.find? fun s => s.id == id && s.accountId == account && s.isActive, t)
  | .availability staff date time excluding, t => (t.availability staff date time excluding, t)
  | .create request, t => t.create request now
  | .listUpcoming account phone date, t => (t.upcoming account phone date, t)
  | .get account id, t => (t.bookings.find? fun b => b.id == id && b.accountId == account, t)
  | .cancel account id, t => t.cancel account id
  | .reschedule account id slot date, t => t.reschedule account id slot date

end BookingTables

end Dialogue
