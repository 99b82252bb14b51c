import Dialogue.Proofs.Booking.Accepted
import Dialogue.Proofs.Booking.Capacity

/-!
# Which of the free times are shown

A list has room for ten times. For a new booking these are the first ten upcoming times of the
member of staff that have room, and there is nothing to offer exactly if no upcoming time has room
(`BookingTables.selectStaff_offers`).

For a booking that is moved, room is counted without the booking itself, so its own time is mostly
among the free ones, and it is left out of what is shown only after the first ten are taken. So what
is shown are the first of the free times that differ from the booking's, but it may be fewer than
there is place for: exactly if the booking's time is among the first ten free ones and another time
is free behind them (`BookingTables.startReschedule_offers`).
-/

namespace Dialogue

/-! ## The first of a list, tested before and after -/

section Take

variable {α : Type} (p : α → Bool) (l : List α) (n : Nat)

/-- What passes among the first is followed by what passes behind them. -/
theorem take_filter_eq_append : (l.filter p).take n
    = (l.take n).filter p ++ ((l.drop n).filter p).take (n - ((l.take n).filter p).length) := by
  have le : ((l.take n).filter p).length ≤ n :=
    Nat.le_trans (List.length_filter_le _ _) (List.length_take_le _ _)
  have split : l.filter p = (l.take n).filter p ++ (l.drop n).filter p := by
    rw [← List.filter_append, List.take_append_drop]
  conv_lhs => rw [split, List.take_append, List.take_of_length_le le]

theorem filter_take_prefix : (l.take n).filter p <+: (l.filter p).take n := by
  rw [take_filter_eq_append]
  exact List.prefix_append _ _

theorem filter_take_eq_take_filter_iff : (l.take n).filter p = (l.filter p).take n
    ↔ (∀ a ∈ l.take n, p a = true) ∨ ∀ a ∈ l.drop n, ¬ p a = true := by
  rw [take_filter_eq_append, List.self_eq_append_right, List.take_eq_nil_iff,
    Nat.sub_eq_zero_iff_le, List.filter_eq_nil_iff]
  constructor
  · rintro (full | none_)
    · have length := Nat.le_antisymm (List.length_filter_le p (l.take n))
        (Nat.le_trans (List.length_take_le _ _) full)
      exact .inl (List.length_filter_eq_length_iff.1 length)
    · exact .inr none_
  · rintro (all | none_)
    · rw [List.filter_eq_self.2 all, List.length_take]
      rcases Nat.le_total n l.length with le | le
      · exact .inl (by omega)
      · exact .inr (by simp [List.drop_of_length_le le])
    · exact .inr none_

end Take

/-- The rows of all lists of the step, in order. -/
def FlowStep.rows (s : FlowStep) : List ListRow :=
  s.messages.flatMap fun
    | .text _ => []
    | .list l => l.rows

theorem FlowStep.rows_choices (body label : String) (rows : List ListRow) :
    (choices body label rows).rows = rows := by
  simp [FlowStep.rows, choices, listing, ListMessage.rows]

/-- The row by which an occurrence is selected. -/
def Occurrence.row (select : SlotId → Date → Selection) (o : Occurrence) : ListRow :=
  (select o.slot.id o.date).row o.label none

/-- The occurrence is at the date and the time of the booking. -/
def Booking.IsAt (b : Booking) (o : Occurrence) : Prop :=
  o.date = b.date ∧ o.slot.startTime = b.time

instance (b : Booking) (o : Occurrence) : Decidable (b.IsAt o) :=
  inferInstanceAs (Decidable (o.date = b.date ∧ o.slot.startTime = b.time))

namespace BookingTables

variable (t : BookingTables) (now : Instant) (v : Visit) (c : Context) (p : BookingProgress)

/-- The upcoming times of a member of staff's active slots in the account at which fewer bookings
stand than the time can have, one booking left out. -/
def freeTimes (staff : StaffId) (daysAhead : UInt32) (excluding : Option BookingId) :
    List Occurrence :=
  (Occurrence.upcoming
    (t.slots.filter fun s => s.accountId == v.accountId && s.staffId == staff && s.isActive)
    v.today v.now daysAhead).filter fun o =>
      t.taken staff o.date o.slot.startTime excluding < t.capacityAt staff o.date o.slot.startTime

theorem take_maxRows_isEmpty {l : List Occurrence} :
    (l.take Occurrence.maxRows).isEmpty = true ↔ l = [] := by
  simp [Occurrence.maxRows]

theorem openTimes_eq (staff : StaffId) (configured : Option UInt32)
    (excluding : Option BookingId) : t.openTimes v staff configured excluding
      = (t.freeTimes v staff (v.days configured) excluding).take Occurrence.maxRows := by
  have room : t.hasRoom staff excluding = fun o => decide
      (t.taken staff o.date o.slot.startTime excluding
        < t.capacityAt staff o.date o.slot.startTime) := by
    funext o
    rw [Bool.eq_iff_iff, decide_eq_true_iff]
    exact available_iff_taken_lt
  unfold openTimes freeTimes
  rw [room]
  rfl

/-- The member of staff of the account that has a number. -/
def staff? (id : StaffId) : Option Staff :=
  t.staff.find? fun s => s.id == id && s.accountId == v.accountId && s.isActive

/-- Whatever the tables hold, the visit, the settings and the number: if it is that of a member of
staff of the selected department, a step lists the first ten of the free times, in order, and goes
on as one without slots exactly if there are none. No other number leads to a step. -/
theorem selectStaff_offers (settings : BookAppointment) (id : StaffId) :
    t.Yields now (v.selectStaff p settings id) c fun o _ t' => t' = t
      ∧ (o.isSome = true ↔ ∃ s, t.staff? v id = some s ∧ some s.departmentId = p.departmentId)
      ∧ ∀ step, o = some step →
        step.rows = ((t.freeTimes v id (v.days settings.daysAhead) none).take 10).map
            (Occurrence.row .slot)
          ∧ (step.transition = .follow .noSlots
            ↔ t.freeTimes v id (v.days settings.daysAhead) none = []) := by
  unfold Visit.selectStaff
  refine yields_read rfl ?_
  rw [show (answer now (.getStaff v.accountId id) t).1 = t.staff? v id from rfl]
  cases found : t.staff? v id with
  | none => exact yields_pure ⟨rfl, by simp, nofun⟩
  | some staff =>
    have same : staff.id = id := by
      have h := List.find?_some found
      simp only [Bool.and_eq_true, beq_iff_eq] at h
      exact h.1.1
    dsimp only
    rw [same]
    split
    · rename_i other
      exact yields_pure ⟨rfl, by simp [other], nofun⟩
    · rename_i member
      have isSome (step : FlowStep) : (some step).isSome = true
          ↔ ∃ s, some staff = some s ∧ some s.departmentId = p.departmentId :=
        iff_of_true rfl ⟨staff, rfl, not_not.1 member⟩
      refine yields_openTimes ?_
      rw [openTimes_eq]
      split
      · rename_i none_
        have none_ := take_maxRows_isEmpty.1 none_
        refine yields_clear (yields_pure ⟨rfl, isSome _, ?_⟩)
        rintro _ ⟨⟩
        rw [none_]
        exact ⟨rfl, iff_of_true rfl rfl⟩
      · rename_i some_
        refine yields_keep (yields_pure ⟨rfl, isSome _, ?_⟩)
        rintro _ ⟨⟩
        exact ⟨FlowStep.rows_choices _ _ _,
          iff_of_false nofun fun none_ => some_ (take_maxRows_isEmpty.2 none_)⟩

end BookingTables

/-! A weekly time of one place, which is taken on the first of twelve mondays. -/

namespace Mondays

open Practice BookingTables

def visit : Visit := ⟨account, "919800000001", monday, .ofSecond 32400, 84⟩

def request : BookingRequest :=
  ⟨account, ⟨1⟩, ⟨2⟩, ⟨3⟩, "919800000001", none, monday, noon, none, none⟩

def booking : Booking := ⟨request, ⟨4⟩, .confirmed, now⟩

def tables : BookingTables :=
  BookingTables.empty.changeAll
    (staffed ++ [.addSlot account ⟨2⟩ .monday noon 1, .create request now])

def progress : BookingProgress :=
  let started : BookingProgress := .start "book" (.book .standard) .selectStaff
  { started with departmentId := some ⟨1⟩ }

/-- The upcoming mondays, on which the time is in the order of the dates. -/
def mondays : List Occurrence :=
  (Occurrence.datesFrom monday 84).flatMap
    (Occurrence.onDate (tables.slots.filter fun s => s.accountId == account && s.staffId == ⟨2⟩
      && s.isActive) monday (.ofSecond 32400))

theorem freeTimes_eq (excluding : Option BookingId) :
    tables.freeTimes visit ⟨2⟩ 84 excluding = mondays.filter fun o =>
      tables.taken ⟨2⟩ o.date o.slot.startTime excluding
        < tables.capacityAt ⟨2⟩ o.date o.slot.startTime := by
  have sorted : mondays.Pairwise fun a b => a.precedes b = true := by decide +kernel
  exact congrArg _ (List.mergeSort_of_pairwise sorted)

end Mondays

open Mondays BookingTables Practice in
theorem BookingTables.selectStaff_offers_mondays : ∃ step c',
    (visit.selectStaff progress .standard ⟨2⟩ .empty).run (reply now) tables
        = ((.ok (some step), c'), tables)
      ∧ step.rows.map (·.title) = ["Mon 16 Mar 12:00", "Mon 23 Mar 12:00", "Mon 30 Mar 12:00",
        "Mon 06 Apr 12:00", "Mon 13 Apr 12:00", "Mon 20 Apr 12:00", "Mon 27 Apr 12:00",
        "Mon 04 May 12:00", "Mon 11 May 12:00", "Mon 18 May 12:00"]
      ∧ step.transition ≠ .follow .noSlots := by
  obtain ⟨o, c', t', run, rfl, found, shown⟩ :=
    selectStaff_offers tables now visit .empty progress .standard ⟨2⟩
  have some_ : o.isSome = true := found.2 ⟨_, rfl, rfl⟩
  obtain ⟨step, rfl⟩ := Option.isSome_iff_exists.1 some_
  obtain ⟨rows, transition⟩ := shown step rfl
  have free : tables.freeTimes visit ⟨2⟩ (visit.days BookAppointment.standard.daysAhead) none = _ :=
    freeTimes_eq none
  rw [free] at rows transition
  refine ⟨step, c', run, ?_, ?_⟩
  · rw [rows]
    decide +kernel
  · rw [Ne, transition]
    decide +kernel

namespace BookingTables

variable (t : BookingTables) (now : Instant) (v : Visit) (c : Context) (p : BookingProgress)

/-! ## Moving a booking -/

/-- The occurrences at another date or time than the booking's. -/
def elsewhere (b : Booking) (l : List Occurrence) : List Occurrence :=
  l.filter fun o => ¬ b.IsAt o

theorem elsewhere_eq_nil_iff {b : Booking} {l : List Occurrence} :
    elsewhere b l = [] ↔ ∀ o ∈ l, b.IsAt o := by
  simp [elsewhere, List.filter_eq_nil_iff]

/-- What differs among the first is the first of what differs, and all of it that is wanted exactly
if nothing among the first is left out or nothing behind them differs. -/
theorem map_elsewhere_take (b : Booking) (l : List Occurrence) (n : Nat)
    (row : Occurrence → ListRow) :
    (elsewhere b (l.take n)).map row <+: ((elsewhere b l).take n).map row
      ∧ ((elsewhere b (l.take n)).map row = ((elsewhere b l).take n).map row
        ↔ (∀ o ∈ l.take n, ¬ b.IsAt o) ∨ ∀ o ∈ l.drop n, b.IsAt o) := by
  have starts : elsewhere b (l.take n) <+: (elsewhere b l).take n := filter_take_prefix _ l n
  have all_shown : elsewhere b (l.take n) = (elsewhere b l).take n
      ↔ (∀ o ∈ l.take n, ¬ b.IsAt o) ∨ ∀ o ∈ l.drop n, b.IsAt o := by
    have tested := filter_take_eq_take_filter_iff (fun o => decide (¬ b.IsAt o)) l n
    simp only [decide_eq_true_eq, not_not] at tested
    exact tested
  refine ⟨starts.map row, Iff.trans ⟨fun h => ?_, congrArg _⟩ all_shown⟩
  have length := congrArg List.length h
  rw [List.length_map, List.length_map] at length
  exact starts.eq_of_length length

/-- The booking's own time is left out behind the cut. -/
theorem startReschedule_rows (settings : CheckBookings) {id : BookingId} {b : Booking}
    (own : t.ownBooking? v id = some b) :
    let shown := elsewhere b
      ((t.freeTimes v b.staffId (v.days settings.daysAhead) (some b.id)).take 10)
    t.Yields now (v.startReschedule p settings id) c fun o _ t' => t' = t ∧ ∃ step, o = some step
      ∧ step.rows = shown.map (Occurrence.row .newSlot)
      ∧ (step = .ending settings.unavailableMessage ↔ shown = []) := by
  intro shown
  have differs : (fun o : Occurrence => o.date != b.date || o.slot.startTime != b.time)
      = fun o => decide (¬ b.IsAt o) := by
    funext o
    rw [Bool.eq_iff_iff]
    simp [Booking.IsAt, imp_iff_not_or]
  unfold Visit.startReschedule
  refine yields_ownBooking? ?_
  rw [own]
  refine yields_openTimes ?_
  rw [openTimes_eq]
  dsimp only
  rw [differs]
  split
  · rename_i none_
    have none_ : shown = [] := List.isEmpty_iff.1 none_
    refine yields_clear (yields_pure ⟨rfl, _, rfl, ?_, iff_of_true rfl none_⟩)
    rw [none_]
    rfl
  · rename_i some_
    refine yields_keep (yields_pure ⟨rfl, _, rfl, FlowStep.rows_choices _ _ _, ?_⟩)
    exact iff_of_false nofun fun none_ => some_ (List.isEmpty_iff.2 none_)

/-- Whatever the tables hold, the visit and the settings: for a booking of the participant's own
that stands, a step lists those of the first ten free times that differ from the booking's, room
being counted without it. They are the first of all free times that differ, and the first ten of
them exactly if the booking's time is not among the first ten free ones or no other time is free
behind them. Nothing is available exactly if the first ten are all at the booking's time. -/
theorem startReschedule_offers (settings : CheckBookings) {id : BookingId} {b : Booking}
    (own : t.ownBooking? v id = some b) :
    let free := t.freeTimes v b.staffId (v.days settings.daysAhead) (some b.id)
    let claimed := ((elsewhere b free).take 10).map (Occurrence.row .newSlot)
    t.Yields now (v.startReschedule p settings id) c fun o _ t' => t' = t ∧ ∃ step, o = some step
      ∧ step.rows = (elsewhere b (free.take 10)).map (Occurrence.row .newSlot)
      ∧ step.rows <+: claimed
      ∧ (step.rows = claimed ↔ (∀ o ∈ free.take 10, ¬ b.IsAt o) ∨ ∀ o ∈ free.drop 10, b.IsAt o)
      ∧ (step = .ending settings.unavailableMessage ↔ ∀ o ∈ free.take 10, b.IsAt o) := by
  intro free claimed
  refine (t.startReschedule_rows now v c p settings own).mono ?_
  rintro o _ t' ⟨same, step, rfl, rows, ending⟩
  obtain ⟨starts, all_shown⟩ := map_elsewhere_take b free 10 (Occurrence.row .newSlot)
  refine ⟨same, step, rfl, rows, ?_, ?_, ending.trans elsewhere_eq_nil_iff⟩
  · rw [rows]
    exact starts
  · rw [rows]
    exact all_shown

end BookingTables

open Mondays BookingTables Practice in
theorem BookingTables.startReschedule_offers_mondays : tables.ownBooking? visit ⟨4⟩ = some booking
    ∧ ∃ step c', (visit.startReschedule progress .standard ⟨4⟩ .empty).run (reply now) tables
        = ((.ok (some step), c'), tables)
      ∧ step.rows.length = 9
      ∧ (elsewhere booking (tables.freeTimes visit ⟨2⟩ 84 (some ⟨4⟩))).length = 11
      ∧ step.rows ≠ ((elsewhere booking (tables.freeTimes visit ⟨2⟩ 84 (some ⟨4⟩))).take 10).map
        (Occurrence.row .newSlot) := by
  have own : tables.ownBooking? visit ⟨4⟩ = some booking := by decide +kernel
  obtain ⟨o, c', t', run, rfl, step, rfl, rows, -, all_shown, -⟩ :=
    startReschedule_offers tables now visit .empty progress .standard own
  change step.rows = (elsewhere booking ((tables.freeTimes visit ⟨2⟩ 84 (some ⟨4⟩)).take 10)).map _
    at rows
  change step.rows = ((elsewhere booking (tables.freeTimes visit ⟨2⟩ 84 (some ⟨4⟩))).take 10).map _
    ↔ (∀ o ∈ (tables.freeTimes visit ⟨2⟩ 84 (some ⟨4⟩)).take 10, ¬ booking.IsAt o)
      ∨ ∀ o ∈ (tables.freeTimes visit ⟨2⟩ 84 (some ⟨4⟩)).drop 10, booking.IsAt o at all_shown
  rw [freeTimes_eq] at rows all_shown ⊢
  refine ⟨own, step, c', run, ?_, by decide +kernel, ?_⟩
  · rw [rows, List.length_map]
    decide +kernel
  · rw [Ne, all_shown]
    decide +kernel

end Dialogue
