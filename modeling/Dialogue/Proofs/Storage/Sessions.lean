import Mathlib.Data.Finset.Lattice.Fold
import Mathlib.Logic.Relation
import Mathlib.Order.Lattice.Nat
import Dialogue.Booking.Table
import Dialogue.Proofs.Booking.Turns
import Dialogue.Storage.Bookings

/-!
# Calls side by side

A database that keeps the tables of appointments serves any number of calls at once. Each has a
connection of its own and is answered statement by statement, in any order (`Step`). A statement
sees the rows that were committed before it, and those that its own transaction wrote (`Executes`).
A row that a transaction holds is neither locked nor written by another one until it ends. Whatever
is asked may also fail, and whether a failed commit took place is not known (`Answers`).
-/

namespace Dialogue

/-- The rows that bookings refer to. Numbers are distinct, what is referred to is there, and a
column holds what fits it: a capacity is a number of 32 bits, and times are to the microsecond. -/
structure BookingSchema where
  departments : List Department
  staff : List Staff
  slots : List TimeSlot
  departments_nodup : (departments.map Department.id).Nodup
  staff_nodup : (staff.map Staff.id).Nodup
  slots_nodup : (slots.map TimeSlot.id).Nodup
  department_mem : ∀ s ∈ staff, s.departmentId ∈ departments.map Department.id
  staff_mem : ∀ s ∈ slots, s.staffId ∈ staff.map Staff.id
  capacity_lt : ∀ s ∈ slots, s.capacity.toNat < 2 ^ 31
  startTime_eq : ∀ s ∈ slots, s.startTime.toMicrosecond = s.startTime

namespace BookingSchema

variable (d : BookingSchema)

/-- The active slots of a member of staff that begin at a time of a date. -/
def covering (staff : StaffId) (date : Date) (time : TimeOfDay) : List TimeSlot :=
  d.slots.filter fun s =>
    s.isActive && s.staffId == staff && s.startTime == time && s.occursOn date

/-- The largest capacity of the slots that cover a time. -/
def largest (staff : StaffId) (date : Date) (time : TimeOfDay) : Nat :=
  (d.covering staff date time).toFinset.sup fun s => s.capacity.toNat

end BookingSchema

/-! ## Rows -/

/-- The rows of bookings after one was written: it takes the place of the one with its number. -/
def putBooking (rows : List Booking) (b : Booking) : List Booking :=
  b :: rows.filter fun c => c.id != b.id

/-- What a transaction holds and has written so far. -/
structure Transaction where
  slots : List SlotId
  bookings : List BookingId
  writes : List Booking

namespace Transaction

/-- A transaction that has done nothing yet. -/
def empty : Transaction := ⟨[], [], []⟩

/-- The rows as the transaction sees them, and as it leaves them when it is committed. -/
def view (t : Transaction) (rows : List Booking) : List Booking := t.writes.foldl putBooking rows

/-- The transaction after it wrote a row, which it holds from then on. -/
def write (t : Transaction) (b : Booking) : Transaction :=
  { t with bookings := b.id :: t.bookings, writes := t.writes ++ [b] }

end Transaction

/-- The state of a connection. A transaction in which something failed is over, but the connection
takes no statement until it is ended. -/
inductive Connection where
  | idle
  | inside (t : Transaction)
  | aborted

/-- A call in progress: what it is, what is left of its work, and its connection. -/
structure Session where
  query : BookingQuery
  rest : Program DatabaseRequest DatabaseRequest.Answer (Except BookingError query.Answer)
  connection : Connection

namespace Session

/-- The row of a slot is held by no transaction of the sessions. -/
def SlotFree (sessions : List Session) (id : SlotId) : Prop :=
  ∀ s ∈ sessions, ∀ t, s.connection = .inside t → id ∉ t.slots

/-- The row of a booking is held by no transaction of the sessions. -/
def BookingFree (sessions : List Session) (id : BookingId) : Prop :=
  ∀ s ∈ sessions, ∀ t, s.connection = .inside t → id ∉ t.bookings

end Session

/-- The columns of a slot that is locked. -/
def TimeSlot.lockedRow (s : TimeSlot) : Row :=
  [("staff_id", .bigint s.staffId.number),
    ("weekday", .smallint (Statement.weekdayNumber s.weekday)),
    ("start_time", .time s.startTime), ("capacity", .integer (.ofNat s.capacity.toNat))]

/-- The columns of a booking. -/
def Booking.row (b : Booking) : Row :=
  [("id", .bigint b.id.number), ("account_id", .text b.accountId.text),
    ("department_id", .bigint b.departmentId.number), ("staff_id", .bigint b.staffId.number),
    ("slot_id", .bigint b.slotId.number), ("phone", .text b.phone),
    ("customer_name", .ofOption .text b.customerName), ("booking_date", .date b.date),
    ("booking_time", .time b.time), ("custom_answer_1", .ofOption .text b.customAnswer1),
    ("custom_answer_2", .ofOption .text b.customAnswer2), ("status", .text b.status.name),
    ("created_at", .timestamp b.createdAt)]

/-- What a statement brings that found these rows. -/
def ResultSet.found (rows : List Row) : ResultSet := ⟨rows, rows.length⟩

/-- The row that is inserted for a request. -/
def BookingRequest.inserted (r : BookingRequest) (id : BookingId) (now : Instant) : Booking :=
  { r with time := r.time.toMicrosecond, id, status := .confirmed, createdAt := now }

/-- A booking at another time, as it is stored. -/
def Booking.updated (b : Booking) (slot : TimeSlot) (date : Date) : Booking :=
  { b with slotId := slot.id, staffId := slot.staffId, date, time := slot.startTime.toMicrosecond }

open BookingTables (takes stands)

section Statements

variable (d : BookingSchema) (rows : List Booking) (others : List Session)

/-- What a statement brings in a transaction, beside the transactions of the others, and what the
transaction has then become. -/
inductive Executes (t : Transaction) : Statement → ResultSet → Transaction → Prop
  | noSlot {id : SlotId} : (∀ s ∈ d.slots, s.isActive = true → s.id ≠ id) →
    Executes t (.lockSlot id) (.found []) t
  | slot {s : TimeSlot} : s ∈ d.slots → s.isActive = true → Session.SlotFree others s.id →
    Executes t (.lockSlot s.id) (.found [s.lockedRow]) { t with slots := s.id :: t.slots }
  | noBooking {account : AccountId} {id : BookingId} :
    (∀ b ∈ t.view rows, stands account id b = false) →
    Executes t (.lockBooking account id) (.found []) t
  | booking {account : AccountId} {id : BookingId} {b : Booking} :
    b ∈ t.view rows → stands account id b = true → Session.BookingFree others id →
    Executes t (.lockBooking account id) (.found [[("id", .bigint id.number)]])
      { t with bookings := id :: t.bookings }
  | count {staff : StaffId} {date : Date} {time : TimeOfDay} {excluding : Option BookingId}
      {n : Int64} :
    n.toInt = (t.view rows).countP (fun b =>
      takes b staff date time.toMicrosecond && some b.id != excluding) →
    Executes t (.countConfirmed staff date time excluding) (.found [[("count", .bigint n)]]) t
  | insert {r : BookingRequest} {id : BookingId} {now : Instant} :
    r.departmentId ∈ d.departments.map Department.id → r.staffId ∈ d.staff.map Staff.id →
    r.slotId ∈ d.slots.map TimeSlot.id → (∀ b ∈ t.view rows, b.id ≠ id) →
    Session.BookingFree others id →
    Executes t (.insertBooking r) (.found [(r.inserted id now).row]) (t.write (r.inserted id now))
  | noMove {account : AccountId} {id : BookingId} {slot : TimeSlot} {date : Date} :
    (∀ b ∈ t.view rows, b.id = id → b.accountId ≠ account) →
    Executes t (.moveBooking account id slot date) (.found []) t
  | move {b : Booking} {slot : TimeSlot} {date : Date} :
    b ∈ t.view rows → Session.BookingFree others b.id →
    slot.staffId ∈ d.staff.map Staff.id → slot.id ∈ d.slots.map TimeSlot.id →
    Executes t (.moveBooking b.accountId b.id slot date) (.found [(b.updated slot date).row])
      (t.write (b.updated slot date))
  | noCancel {account : AccountId} {id : BookingId} :
    (∀ b ∈ t.view rows, stands account id b = false) →
    Executes t (.cancelBooking account id) (.found []) t
  | cancel {account : AccountId} {id : BookingId} {b : Booking} :
    b ∈ t.view rows → stands account id b = true → Session.BookingFree others id →
    Executes t (.cancelBooking account id) ⟨[], 1⟩ (t.write { b with status := .cancelled })

/-- What a connection answers, and what then becomes of it and of the rows that are committed. -/
inductive Answers : Connection → (i : DatabaseRequest) → i.Answer → Connection → List Booking → Prop
  | started : Answers .idle (.transaction .start) (.ok ()) (.inside .empty) rows
  | unstarted (m : String) : Answers .idle (.transaction .start) (.error m) .idle rows
  | executed {t t' : Transaction} {s : Statement} {r : ResultSet} :
    Executes d rows others t s r t' → Answers (.inside t) (.execute s) (.ok r) (.inside t') rows
  | failed {t : Transaction} {s : Statement} (m : String) :
    Answers (.inside t) (.execute s) (.error m) .aborted rows
  | refused {s : Statement} (m : String) :
    Answers .aborted (.execute s) (.error m) .aborted rows
  /-- A statement outside a transaction is one of its own. -/
  | alone {t : Transaction} {s : Statement} {r : ResultSet} :
    Executes d rows others .empty s r t →
    Answers .idle (.execute s) (.ok r) .idle (t.view rows)
  | aloneUnknown {t : Transaction} {s : Statement} {r : ResultSet} (m : String) :
    Executes d rows others .empty s r t →
    Answers .idle (.execute s) (.error m) .idle (t.view rows)
  | aloneFailed {s : Statement} (m : String) : Answers .idle (.execute s) (.error m) .idle rows
  | committed {t : Transaction} (answer : Except String Unit) :
    Answers (.inside t) (.transaction .commit) answer .idle (t.view rows)
  | uncommitted {t : Transaction} (m : String) :
    Answers (.inside t) (.transaction .commit) (.error m) .idle rows
  | nothing {c : Connection} (answer : Except String Unit) : (∀ t, c ≠ .inside t) →
    Answers c (.transaction .commit) answer .idle rows
  | rolledBack (c : Connection) (answer : Except String Unit) :
    Answers c (.transaction .rollback) answer .idle rows

end Statements

/-! ## Steps -/

/-- The bookings that are committed, and the calls that were made. -/
structure DatabaseState where
  bookings : List Booking
  sessions : List Session

namespace DatabaseState

/-- No bookings, and no calls yet. -/
def initial : DatabaseState := ⟨[], []⟩

/-- The number of committed bookings that stand at a time. -/
def confirmedAt (s : DatabaseState) (staff : StaffId) (date : Date) (time : TimeOfDay) : Nat :=
  s.bookings.countP fun b => takes b staff date time

end DatabaseState

/-- The call of a query, with nothing asked yet. -/
def Session.start (q : BookingQuery) : Session := ⟨q, (Storage.booking q).run, .idle⟩

namespace BookingSchema

/-- A call is made, or one of the calls is answered what it asks next. -/
inductive Step (d : BookingSchema) : DatabaseState → DatabaseState → Prop
  | call {rows : List Booking} {sessions : List Session} {q : BookingQuery} :
    q.changes = true → Step d ⟨rows, sessions⟩ ⟨rows, sessions ++ [.start q]⟩
  | answer {rows rows' : List Booking} {before after : List Session} {q : BookingQuery}
      {c c' : Connection} {i : DatabaseRequest} {r : i.Answer}
      {next : i.Answer → Program DatabaseRequest DatabaseRequest.Answer
        (Except BookingError q.Answer)} :
    Answers d rows (before ++ after) c i r c' rows' →
    Step d ⟨rows, before ++ ⟨q, .ask i next, c⟩ :: after⟩
      ⟨rows', before ++ ⟨q, next r, c'⟩ :: after⟩

/-- What the database and its calls can come to. -/
def Reachable (d : BookingSchema) (s : DatabaseState) : Prop :=
  Relation.ReflTransGen d.Step .initial s

end BookingSchema

end Dialogue
