import Mathlib.Data.List.Nodup
import Dialogue.Proofs.Storage.Overbooking
import Dialogue.Proofs.Storage.Workflows

/-!
# The limit is reached

The limit of a time is not only kept but reached. A call of each slot but the largest one comes to
wait between its count and its write, while there is no booking yet; calls of the largest slot fill
it one after another, and then those that wait write (`exists_confirmedAt_eq_limit`). So a time is
never overbooked if one slot covers it, and can be if two do (`confirmedAt_limit`).
-/

namespace Dialogue

open DatabaseWork (Runs Brings taken)
open BookingTables (takes)

variable {d : BookingSchema}

/-! ## Rows are read as they were written -/

theorem Storage.bookingRow_row (b : Booking) : bookingRow b.row = .ok (.ok b) := by
  have account : readAccount b.accountId.text = .ok b.accountId := by
    rw [readAccount, readId, Id.parse_text]
  have standing : readStatus b.status.name = .ok b.status := by cases b.status <;> rfl
  have optional (name : String) (o : Option String)
      (held : b.row.lookup name = some (.ofOption .text o)) :
      RowReader.column name (SqlValue.nullable? SqlValue.text?) b.row = .ok o :=
    RowReader.column_of_lookup held (by cases o <;> rfl)
  unfold bookingRow
  refine (RowReader.bind_of_eq_ok (a := b.id.number) rfl).trans ?_
  refine (RowReader.bind_of_eq_ok (a := b.accountId.text) rfl).trans ?_
  refine (RowReader.bind_of_eq_ok (a := b.departmentId.number) rfl).trans ?_
  refine (RowReader.bind_of_eq_ok (a := b.staffId.number) rfl).trans ?_
  refine (RowReader.bind_of_eq_ok (a := b.slotId.number) rfl).trans ?_
  refine (RowReader.bind_of_eq_ok (a := b.phone) rfl).trans ?_
  refine (RowReader.bind_of_eq_ok (optional _ b.customerName rfl)).trans ?_
  refine (RowReader.bind_of_eq_ok (a := b.date) rfl).trans ?_
  refine (RowReader.bind_of_eq_ok (a := b.time) rfl).trans ?_
  refine (RowReader.bind_of_eq_ok (optional _ b.customAnswer1 rfl)).trans ?_
  refine (RowReader.bind_of_eq_ok (optional _ b.customAnswer2 rfl)).trans ?_
  refine (RowReader.bind_of_eq_ok (a := b.status.name) rfl).trans ?_
  refine (RowReader.bind_of_eq_ok (a := b.createdAt) rfl).trans ?_
  simp only [account, standing]
  rfl

/-! ## Steps along a history -/

namespace BookingSchema

/-- One state comes to another. -/
abbrev Steps (d : BookingSchema) : DatabaseState → DatabaseState → Prop :=
  Relation.ReflTransGen d.Step

theorem exists_ask_of_runs {α : Type} {p : Program DatabaseRequest DatabaseRequest.Answer α}
    {i : DatabaseRequest} {r : i.Answer} {h : DatabaseHistory} {a : α}
    (run : p.Runs (⟨i, r⟩ :: h) a) : ∃ next, p = .ask i next ∧ (next r).Runs h a := by
  cases p with
  | done => cases run.1
  | ask j next =>
    obtain ⟨r', h', heq, run⟩ := run
    cases heq
    exact ⟨next, rfl, run⟩

/-- A call whose next answer is the next one of its history takes a step along it. -/
theorem Steps.exchange {s : DatabaseState} {rows rows' : List Booking}
    {before after : List Session} {q : BookingQuery}
    {p : Program DatabaseRequest DatabaseRequest.Answer (Except BookingError q.Answer)}
    {c c' : Connection} {i : DatabaseRequest} {r : i.Answer} {h : DatabaseHistory}
    {a : Except BookingError q.Answer} (run : p.Runs (⟨i, r⟩ :: h) a)
    (answers : Answers d rows (before ++ after) c i r c' rows')
    (steps : d.Steps s ⟨rows, before ++ ⟨q, p, c⟩ :: after⟩) :
    ∃ p' : Program DatabaseRequest DatabaseRequest.Answer (Except BookingError q.Answer),
      p'.Runs h a ∧ d.Steps s ⟨rows', before ++ ⟨q, p', c'⟩ :: after⟩ := by
  obtain ⟨next, rfl, rest⟩ := exists_ask_of_runs run
  exact ⟨next r, rest, steps.tail (.answer answers)⟩

end BookingSchema

/-! ## A call that takes a place -/

namespace TimeSlot

variable (s : TimeSlot) (department : DepartmentId) (date : Date)

/-- A request for a place of the slot. -/
def request : BookingRequest :=
  ⟨s.accountId, department, s.staffId, s.id, "", none, date, s.startTime, none, none⟩

/-- The booking that is made of it. -/
def placed (k : Nat) : Booking :=
  (s.request department date).inserted ⟨.ofNat k⟩ default

/-- What is asked, and answered, up to the count. -/
def waiting (n : Int64) : DatabaseHistory :=
  [taken .start, ⟨.execute (.lockSlot s.id), .ok (.found [s.lockedRow])⟩,
    ⟨.execute (.countConfirmed s.staffId date s.startTime none), .ok (.counted n)⟩]

/-- What is asked, and answered, after the count. -/
def taking (k : Nat) : DatabaseHistory :=
  [⟨.execute (.insertBooking (s.request department date)),
    .ok (.found [(s.placed department date k).row])⟩, taken .commit]

end TimeSlot

variable {s : TimeSlot} {department : DepartmentId} {date : Date} {k : Nat}

theorem runs_create {n : Int64} (mem : s ∈ d.slots) (occurs : s.occursOn date = true)
    (least : 0 ≤ n.toInt) (less : n.toInt < s.capacity.toNat) :
    Program.Runs (Session.start (.create (s.request department date))).rest
      (s.waiting date n ++ s.taking department date k)
      (.ok (.created (s.placed department date k))) := by
  have capacity : s.locked.capacity.toInt = s.capacity.toNat :=
    Int32.toInt_ofNat_of_lt (d.capacity_lt s mem)
  refine Storage.runs_booking_ok.2 ?_
  show Runs (Storage.createBooking _) _ _
  rw [Storage.createBooking_eq]
  refine DatabaseWork.runs_inTransaction_of_runs (h := [_, _, _]) (c := .commit)
    (Storage.runs_placing_commit_iff.2 ⟨s.placed department date k, rfl, ?_⟩)
  exact .mk ⟨[], 1, rfl⟩ (rfl : Storage.LockedSlot.row s.lockedRow = .ok s.locked)
    (TimeSlot.serves_locked.2 ⟨rfl, occurs, rfl⟩) ⟨[], 1, rfl⟩ rfl least
    (capacity.symm ▸ less) ⟨[], 1, rfl⟩ (Storage.bookingRow_row _)

/-- The session of a call that has counted and is about to write. -/
inductive Waiting (department : DepartmentId) (date : Date) (s : TimeSlot) (k : Nat) :
    Session → Prop
  | mk {p : Program DatabaseRequest DatabaseRequest.Answer (Except BookingError Placement)} :
    p.Runs (s.taking department date k) (.ok (.created (s.placed department date k))) →
    Waiting department date s k
      ⟨.create (s.request department date), p, .inside ⟨[s.id], [], []⟩⟩

/-- Where a count leaves room and the slot's row is free, a call comes to wait. -/
theorem exists_waiting {start : DatabaseState} {rows : List Booking} {sessions : List Session}
    (mem : s ∈ d.slots) (active : s.isActive = true) (occurs : s.occursOn date = true) {n : Nat}
    (count : rows.countP (fun b => takes b s.staffId date s.startTime) = n)
    (less : n < s.capacity.toNat) (free : Session.SlotFree sessions s.id) (k : Nat)
    (steps : d.Steps start ⟨rows, sessions⟩) :
    ∃ x, Waiting department date s k x ∧ d.Steps start ⟨rows, sessions ++ [x]⟩ := by
  have capacity := d.capacity_lt s mem
  have number : (Int64.ofNat n).toInt = n := Int64.toInt_ofNat_of_lt (by omega)
  have run := @runs_create d s department date k (.ofNat n) mem occurs
    (number ▸ Int.natCast_nonneg n) (number ▸ Int.ofNat_lt.2 less)
  rw [← List.append_nil sessions] at free
  have locks : Executes d rows (sessions ++ []) .empty (.lockSlot s.id) (.found [s.lockedRow])
      ⟨[s.id], [], []⟩ := .slot mem active free
  have counts : Executes d rows (sessions ++ []) ⟨[s.id], [], []⟩
      (.countConfirmed s.staffId date s.startTime none) (.counted (.ofNat n))
      ⟨[s.id], [], []⟩ := by
    refine .count ?_
    rw [number, ← count, d.startTime_eq s mem]
    exact congrArg Nat.cast (List.countP_congr fun b _ => by simp)
  obtain ⟨p₁, run₁, steps₁⟩ := BookingSchema.Steps.exchange run .started (steps.tail (.call rfl))
  obtain ⟨p₂, run₂, steps₂⟩ := BookingSchema.Steps.exchange run₁ (.executed locks) steps₁
  obtain ⟨p₃, run₃, steps₃⟩ := BookingSchema.Steps.exchange run₂ (.executed counts) steps₂
  exact ⟨_, .mk run₃, steps₃⟩

/-- A call that waits takes its place under a number that is free. -/
theorem Waiting.finish {start : DatabaseState} {rows : List Booking} {before after : List Session}
    {x : Session} (waiting : Waiting department date s k x) (mem : s ∈ d.slots)
    (known : department ∈ d.departments.map Department.id)
    (fresh : ∀ b ∈ rows, b.id ≠ ⟨.ofNat k⟩)
    (free : Session.BookingFree (before ++ after) ⟨.ofNat k⟩)
    (steps : d.Steps start ⟨rows, before ++ x :: after⟩) :
    ∃ y : Session, y.connection = .idle
      ∧ d.Steps start ⟨putBooking rows (s.placed department date k), before ++ y :: after⟩ := by
  obtain ⟨run⟩ := waiting
  have inserts : Executes d rows (before ++ after) ⟨[s.id], [], []⟩
      (.insertBooking (s.request department date)) (.found [(s.placed department date k).row])
      (Transaction.write ⟨[s.id], [], []⟩ (s.placed department date k)) :=
    .insert known (d.staff_mem s mem) (List.mem_map_of_mem mem) fresh free
  obtain ⟨p₁, run₁, steps₁⟩ := BookingSchema.Steps.exchange run (.executed inserts) steps
  obtain ⟨p₂, run₂, steps₂⟩ := BookingSchema.Steps.exchange run₁ (.committed (.ok ())) steps₁
  exact ⟨_, rfl, steps₂⟩

/-! ## Bookings with the numbers from zero on -/

/-- There are `n` bookings at a time, and every booking has one of the first `n` numbers. -/
structure Filled (staff : StaffId) (date : Date) (time : TimeOfDay) (rows : List Booking)
    (n : Nat) : Prop where
  count : rows.countP (fun b => takes b staff date time) = n
  numbers : ∀ b ∈ rows, ∃ k < n, b.id = ⟨.ofNat k⟩

section Filled

variable {staff : StaffId} {time : TimeOfDay} {rows : List Booking} {n : Nat} {b : Booking}

theorem filled_nil : Filled staff date time [] 0 := ⟨rfl, fun _ hb => absurd hb List.not_mem_nil⟩

theorem Filled.fresh (filled : Filled staff date time rows n) (few : n < 2 ^ 63) :
    ∀ b ∈ rows, b.id ≠ ⟨.ofNat n⟩ := by
  intro b hb same
  obtain ⟨k, hk, hid⟩ := filled.numbers b hb
  have numbers : Int64.ofNat k = Int64.ofNat n := congrArg BookingId.number (hid.symm.trans same)
  have := congrArg Int64.toInt numbers
  rw [Int64.toInt_ofNat_of_lt (by omega), Int64.toInt_ofNat_of_lt few] at this
  omega

theorem Filled.put (filled : Filled staff date time rows n) (few : n < 2 ^ 63)
    (hb : takes b staff date time = true) (hid : b.id = ⟨.ofNat n⟩) :
    Filled staff date time (putBooking rows b) (n + 1) := by
  have rest : rows.filter (fun c => c.id != b.id) = rows := by
    refine List.filter_eq_self.2 fun c hc => ?_
    rw [hid, bne_iff_ne]
    exact filled.fresh few c hc
  constructor
  · rw [putBooking, rest, ← filled.count]
    exact List.countP_cons_of_pos hb
  · rw [putBooking, rest]
    refine List.forall_mem_cons.2 ⟨⟨n, Nat.lt_succ_self n, hid⟩, fun c hc => ?_⟩
    obtain ⟨k, hk, hcid⟩ := filled.numbers c hc
    exact ⟨k, Nat.lt_succ_of_lt hk, hcid⟩

theorem TimeSlot.takes_placed (mem : s ∈ d.slots) :
    takes (s.placed department date k) s.staffId date s.startTime = true := by
  simp [takes, placed, request, BookingRequest.inserted, d.startTime_eq s mem]

end Filled

/-! ## One call after another -/

/-- No session holds the row of a booking. -/
def Calm (sessions : List Session) : Prop :=
  ∀ x ∈ sessions, ∀ t, x.connection = .inside t → t.bookings = []

theorem Calm.bookingFree {sessions : List Session} (calm : Calm sessions) (id : BookingId) :
    Session.BookingFree sessions id := by
  intro x hx t ht
  rw [calm x hx t ht]
  exact List.not_mem_nil

theorem Waiting.calm {x : Session} (waiting : Waiting department date s k x) : Calm [x] := by
  refine List.forall_mem_singleton.2 fun t ht => ?_
  cases waiting
  cases ht
  rfl

theorem Waiting.slotFree {x : Session} {id : SlotId} (waiting : Waiting department date s k x)
    (other : s.id ≠ id) : Session.SlotFree [x] id := by
  refine List.forall_mem_singleton.2 fun t ht => ?_
  cases waiting
  cases ht
  simpa using other.symm

theorem calm_of_idle {x : Session} (h : x.connection = .idle) : Calm [x] :=
  List.forall_mem_singleton.2 fun _ ht => nomatch h.symm.trans ht

theorem slotFree_of_idle {x : Session} {id : SlotId} (h : x.connection = .idle) :
    Session.SlotFree [x] id :=
  List.forall_mem_singleton.2 fun _ ht => nomatch h.symm.trans ht

section Runs

variable {start : DatabaseState} {sessions : List Session} {staff : StaffId} {time : TimeOfDay}

theorem of_mem_bookable (h : s ∈ d.bookable staff date time) :
    s ∈ d.slots ∧ 0 < s.capacity.toNat ∧ s.isActive = true ∧ s.staffId = staff
      ∧ s.startTime = time ∧ s.occursOn date = true := by
  simpa [BookingSchema.bookable, BookingSchema.covering, and_assoc] using h

/-- Calls of one slot after another take all of its places. -/
theorem exists_filled (h : s ∈ d.bookable staff date time)
    (known : department ∈ d.departments.map Department.id)
    (free : Session.SlotFree sessions s.id) (calm : Calm sessions)
    (steps : d.Steps start ⟨[], sessions⟩) : ∀ n ≤ s.capacity.toNat, ∃ rows sessions',
      Filled staff date time rows n ∧ Session.SlotFree sessions' s.id ∧ Calm sessions'
        ∧ d.Steps start ⟨rows, sessions ++ sessions'⟩ := by
  obtain ⟨mem, -, active, rfl, rfl, occurs⟩ := of_mem_bookable h
  have capacity := d.capacity_lt s mem
  intro n hn
  induction n with
  | zero =>
    refine ⟨[], [], filled_nil, fun _ hx => absurd hx List.not_mem_nil,
      fun _ hx => absurd hx List.not_mem_nil, ?_⟩
    rwa [List.append_nil]
  | succ n ih =>
    obtain ⟨rows, sessions', filled, free', calm', steps'⟩ := ih (Nat.le_of_succ_le hn)
    obtain ⟨x, waiting, waits⟩ : ∃ x, Waiting department date s n x
        ∧ d.Steps start ⟨rows, sessions ++ sessions' ++ [x]⟩ :=
      exists_waiting mem active occurs filled.count hn
        (List.forall_mem_append.2 ⟨free, free'⟩) n steps'
    have calms : Calm (sessions ++ sessions' ++ []) := by
      rw [List.append_nil]
      exact List.forall_mem_append.2 ⟨calm, calm'⟩
    obtain ⟨y, idle, done⟩ := waiting.finish mem known (filled.fresh (by omega))
      (calms.bookingFree _) waits
    refine ⟨putBooking rows (s.placed department date n), sessions' ++ [y],
      filled.put (by omega) (TimeSlot.takes_placed mem) rfl,
      List.forall_mem_append.2 ⟨free', slotFree_of_idle idle⟩,
      List.forall_mem_append.2 ⟨calm', calm_of_idle idle⟩, ?_⟩
    rwa [← List.append_assoc]

/-- Sessions that wait for slots, one for each, with numbers in order. -/
inductive Queue (department : DepartmentId) (date : Date) :
    List TimeSlot → Nat → List Session → Prop
  | nil (k : Nat) : Queue department date [] k []
  | cons {s : TimeSlot} {slots : List TimeSlot} {k : Nat} {x : Session} {xs : List Session} :
    Waiting department date s k x → Queue department date slots (k + 1) xs →
    Queue department date (s :: slots) k (x :: xs)

theorem Queue.calm {slots : List TimeSlot} {xs : List Session}
    (queue : Queue department date slots k xs) : Calm xs := by
  induction queue with
  | nil => exact fun _ hx => absurd hx List.not_mem_nil
  | cons waiting _ ih => exact List.forall_mem_cons.2 ⟨waiting.calm _ List.mem_cons_self, ih⟩

theorem Queue.slotFree {slots : List TimeSlot} {xs : List Session} {id : SlotId}
    (queue : Queue department date slots k xs) (other : id ∉ slots.map TimeSlot.id) :
    Session.SlotFree xs id := by
  induction queue with
  | nil => exact fun _ hx => absurd hx List.not_mem_nil
  | cons waiting _ ih =>
    rw [List.map_cons, List.mem_cons, not_or] at other
    exact List.forall_mem_cons.2
      ⟨waiting.slotFree (Ne.symm other.1) _ List.mem_cons_self, ih other.2⟩

/-- While a time has no bookings, a call of each of its slots comes to wait. -/
theorem exists_queue (slots : List TimeSlot)
    (bookable : ∀ s ∈ slots, s ∈ d.bookable staff date time)
    (distinct : (slots.map TimeSlot.id).Nodup) :
    ∀ (k : Nat) {sessions : List Session}, (∀ s ∈ slots, Session.SlotFree sessions s.id) →
      d.Steps start ⟨[], sessions⟩ →
      ∃ xs, Queue department date slots k xs ∧ d.Steps start ⟨[], sessions ++ xs⟩ := by
  induction slots with
  | nil =>
    intro k sessions _ steps
    exact ⟨[], .nil k, by rwa [List.append_nil]⟩
  | cons s slots ih =>
    intro k sessions free steps
    obtain ⟨first, bookable⟩ := List.forall_mem_cons.1 bookable
    obtain ⟨free₁, free⟩ := List.forall_mem_cons.1 free
    obtain ⟨other, distinct⟩ := List.nodup_cons.1 distinct
    obtain ⟨mem, room, active, rfl, rfl, occurs⟩ := of_mem_bookable first
    obtain ⟨x, waiting, waits⟩ : ∃ x, Waiting department date s k x
        ∧ d.Steps start ⟨[], sessions ++ [x]⟩ :=
      exists_waiting mem active occurs filled_nil.count room free₁ k steps
    have apart : ∀ s' ∈ slots, s.id ≠ s'.id := fun s' hs' same =>
      other (same ▸ List.mem_map_of_mem hs')
    obtain ⟨xs, queue, steps⟩ := ih bookable distinct (k + 1)
      (fun s' hs' => List.forall_mem_append.2 ⟨free s' hs', waiting.slotFree (apart s' hs')⟩) waits
    exact ⟨x :: xs, .cons waiting queue, by rwa [List.append_assoc] at steps⟩

/-- The calls of a queue take their places one after another. -/
theorem Queue.finish {slots : List TimeSlot} {n : Nat} {xs : List Session}
    (queue : Queue department date slots n xs)
    (known : department ∈ d.departments.map Department.id) {after : List Session}
    (calm' : Calm after) : ∀ {before : List Session} {rows : List Booking},
    (∀ s ∈ slots, s ∈ d.bookable staff date time) → n + slots.length < 2 ^ 63 →
    Filled staff date time rows n → Calm before →
    d.Steps start ⟨rows, before ++ (xs ++ after)⟩ →
    ∃ s, d.Steps start s ∧ Filled staff date time s.bookings (n + slots.length) := by
  induction queue with
  | nil k =>
    intro before rows _ _ filled _ steps
    exact ⟨_, steps, filled⟩
  | @cons s slots k x xs waiting queue ih =>
    intro before rows bookable few filled calm steps
    obtain ⟨first, bookable⟩ := List.forall_mem_cons.1 bookable
    obtain ⟨mem, -, -, rfl, rfl, -⟩ := of_mem_bookable first
    rw [List.length_cons] at few
    have calms : Calm (before ++ (xs ++ after)) :=
      List.forall_mem_append.2 ⟨calm, List.forall_mem_append.2 ⟨queue.calm, calm'⟩⟩
    obtain ⟨y, idle, done⟩ := waiting.finish mem known (filled.fresh (by omega))
      (calms.bookingFree _) steps
    rw [List.append_cons] at done
    obtain ⟨s', steps', filled'⟩ := ih bookable (by omega)
      (filled.put (by omega) (TimeSlot.takes_placed mem) rfl)
      (List.forall_mem_append.2 ⟨calm, calm_of_idle idle⟩) done
    rw [Nat.add_right_comm, Nat.add_assoc] at filled'
    exact ⟨s', steps', filled'⟩

end Runs

namespace BookingSchema

variable {staff : StaffId} {time : TimeOfDay}

/-- One of the slots that can be booked has the largest capacity, if there is one at all. -/
theorem exists_largest (h : d.bookable staff date time ≠ []) :
    ∃ s ∈ d.bookable staff date time, s.capacity.toNat = d.largest staff date time := by
  obtain ⟨s, hs⟩ := List.exists_mem_of_ne_nil _ h
  have covers := List.mem_toFinset.2 (List.mem_filter.1 hs).1
  obtain ⟨top, htop, same⟩ := Finset.exists_mem_eq_sup _ ⟨s, covers⟩
    fun s : TimeSlot => s.capacity.toNat
  refine ⟨top, List.mem_filter.2 ⟨List.mem_toFinset.1 htop, ?_⟩, same.symm⟩
  have room := (of_mem_bookable hs).2.1
  have most := le_largest hs
  rw [largest, same] at most
  simpa using room.trans_le most

theorem limit_eq_zero (none : d.bookable staff date time = []) : d.limit staff date time = 0 := by
  have empty : d.largest staff date time = 0 := by
    refine (Finset.sup_eq_bot_iff _ _).2 fun s hs => ?_
    by_contra room
    have mem : s ∈ d.bookable staff date time :=
      List.mem_filter.2 ⟨List.mem_toFinset.1 hs, by simpa [Nat.pos_iff_ne_zero] using room⟩
    rw [none] at mem
    cases mem
  rw [limit, none, empty, List.length_nil]

theorem exists_department (h : s ∈ d.slots) :
    ∃ department, department ∈ d.departments.map Department.id := by
  obtain ⟨member, hmember, -⟩ := List.mem_map.1 (d.staff_mem s h)
  exact ⟨_, d.department_mem member hmember⟩

/-- Calls of all slots but the largest one come to wait, the largest one is filled, and then those
that wait take their places. -/
theorem exists_confirmedAt_eq_limit (few : d.limit staff date time < 2 ^ 63) :
    ∃ s, d.Reachable s ∧ s.confirmedAt staff date time = d.limit staff date time := by
  by_cases none : d.bookable staff date time = []
  · exact ⟨.initial, .refl, (limit_eq_zero none).symm⟩
  obtain ⟨top, htop, capacity⟩ := exists_largest none
  obtain ⟨department, known⟩ := exists_department (of_mem_bookable htop).1
  obtain ⟨front, back, split⟩ := List.append_of_mem htop
  have distinct : ((top :: (front ++ back)).map TimeSlot.id).Nodup := by
    have all : ((d.bookable staff date time).map TimeSlot.id).Nodup :=
      d.slots_nodup.sublist ((List.filter_sublist.trans List.filter_sublist).map _)
    rw [split] at all
    exact (List.perm_middle.map _).nodup all
  have others : ∀ s ∈ front ++ back, s ∈ d.bookable staff date time := by
    intro s hs
    rw [split]
    exact List.perm_middle.mem_iff.2 (List.mem_cons_of_mem _ hs)
  have limit_eq : d.limit staff date time = top.capacity.toNat + (front ++ back).length := by
    rw [limit, split, capacity, List.perm_middle.length_eq, List.length_cons, Nat.add_sub_cancel]
  obtain ⟨other, distinct⟩ := List.nodup_cons.1 distinct
  obtain ⟨xs, queue, waits⟩ : ∃ xs, Queue department date (front ++ back) top.capacity.toNat xs
      ∧ d.Steps .initial ⟨[], [] ++ xs⟩ :=
    exists_queue _ others distinct _ (fun _ _ _ hx => absurd hx List.not_mem_nil) .refl
  obtain ⟨rows, sessions, filled, -, calm, fills⟩ :=
    exists_filled htop known (queue.slotFree other) queue.calm waits _ le_rfl
  rw [limit_eq] at few ⊢
  have fills' : d.Steps .initial ⟨rows, [] ++ (xs ++ sessions)⟩ := fills
  obtain ⟨s, steps, full⟩ := queue.finish known calm others few filled
    (fun _ hx => absurd hx List.not_mem_nil) fills'
  exact ⟨s, steps, full.count⟩

/-- Whatever calls are made and however they are answered, a time gets at most as many bookings as
the largest capacity and one for each further slot. That many it can get, so its largest capacity is
never exceeded if and only if at most one slot can be booked there. -/
theorem confirmedAt_limit (d : BookingSchema) (staff : StaffId) (date : Date) (time : TimeOfDay) :
    (∀ s, d.Reachable s → s.confirmedAt staff date time
      ≤ d.largest staff date time + ((d.bookable staff date time).length - 1))
    ∧ (d.limit staff date time < 2 ^ 63 →
      (∃ s, d.Reachable s ∧ s.confirmedAt staff date time
        = d.largest staff date time + ((d.bookable staff date time).length - 1))
      ∧ ((∀ s, d.Reachable s → s.confirmedAt staff date time ≤ d.largest staff date time)
        ↔ (d.bookable staff date time).length ≤ 1)) := by
  refine ⟨fun s reachable => reachable.confirmedAt_le staff date time, fun few => ?_⟩
  obtain ⟨s, reachable, full⟩ := exists_confirmedAt_eq_limit few
  refine ⟨⟨s, reachable, full⟩, fun kept => ?_, fun single s reachable => ?_⟩
  · have most := kept s reachable
    rw [full, limit] at most
    omega
  · have most := reachable.confirmedAt_le staff date time
    rw [limit] at most
    omega

namespace TwoRows

def account : AccountId := ⟨⟨1⟩⟩

def monday : Date := (Date.ofCivil? ⟨2026, 3, 23⟩).get rfl

def halfPastTen : TimeOfDay := .ofSecond 37800

/-- Two rows of one member of staff for one time, with a place each. -/
def schema : BookingSchema where
  departments := [⟨⟨1⟩, account, "Dental", none, true⟩]
  staff := [⟨⟨2⟩, account, ⟨1⟩, "Dr. Rao", true⟩]
  slots := [⟨⟨3⟩, account, ⟨2⟩, .monday, halfPastTen, 1, true⟩,
    ⟨⟨4⟩, account, ⟨2⟩, .monday, halfPastTen, 1, true⟩]
  departments_nodup := by decide
  staff_nodup := by decide
  slots_nodup := by decide
  department_mem := by decide
  staff_mem := by decide
  capacity_lt := by decide
  startTime_eq := by decide

end TwoRows

open TwoRows in
/-- Two customers at once both take the last place. -/
theorem confirmedAt_limit_twoRows : schema.largest ⟨2⟩ monday halfPastTen = 1
    ∧ ∃ s, schema.Reachable s ∧ s.confirmedAt ⟨2⟩ monday halfPastTen = 2 := by
  have limit : schema.limit ⟨2⟩ monday halfPastTen = 2 := by decide +kernel
  obtain ⟨-, exact⟩ := confirmedAt_limit schema ⟨2⟩ monday halfPastTen
  obtain ⟨⟨s, reachable, full⟩, -⟩ := exact (limit ▸ by decide)
  exact ⟨by decide +kernel, s, reachable, full.trans limit⟩

end BookingSchema

end Dialogue
