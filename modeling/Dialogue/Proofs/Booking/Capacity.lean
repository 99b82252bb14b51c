import Dialogue.Proofs.Booking.Changes

/-!
# No time is booked beyond its capacity

Places are counted by member of staff, date and time. A time's capacity is that of the slot that
covers it, none where no slot does. Whatever is added, taken, given up or moved, in whatever order,
the bookings that stand at a time are at most its capacity (`confirmedAt_changeAll_le`).

A booking that is taken or moved counts once more at its new time, where the count before, the
booking itself left out, was below the capacity (`taken_lt_of_available`). A booking that moves is
left out by its number, so the count is right only since numbers are distinct.
-/

namespace Dialogue

namespace BookingTables

/-- The number of bookings that stand at a time. -/
def confirmedAt (t : BookingTables) (staff : StaffId) (date : Date) (time : TimeOfDay) : Nat :=
  t.bookings.countP fun b => takes b staff date time

/-- The number of bookings that a time can have: the capacity of the first active slot of the
member of staff that starts then and recurs on the date. -/
def capacityAt (t : BookingTables) (staff : StaffId) (date : Date) (time : TimeOfDay) : Nat :=
  match t.covering? staff date time with
  | some slot => slot.capacity.toNat
  | none => 0

/-- No time has more bookings than it can have. -/
def Fits (t : BookingTables) : Prop :=
  ∀ staff date time, t.confirmedAt staff date time ≤ t.capacityAt staff date time

theorem clamp_lt_iff {n : Nat} {c : UInt32} : clamp n < c ↔ n < c.toNat := by
  have hc := c.toNat_lt
  rw [UInt32.lt_iff_toNat_lt]
  unfold clamp
  split
  · rename_i hn
    rw [UInt32.toNat_ofNat_of_lt' hn]
  · rw [UInt32.toNat_ofNat_of_lt' (by decide)]
    omega

/-- There is room where fewer places are taken than the time can have. -/
theorem available_iff_taken_lt {t : BookingTables} {staff : StaffId} {date : Date}
    {time : TimeOfDay} {excluding : Option BookingId} :
    (t.availability staff date time excluding).available = true
      ↔ t.taken staff date time excluding < t.capacityAt staff date time := by
  unfold availability capacityAt
  cases t.covering? staff date time with
  | none => exact iff_of_false Bool.false_ne_true (Nat.not_lt_zero _)
  | some slot => exact decide_eq_true_iff.trans clamp_lt_iff

theorem taken_lt_of_available {t : BookingTables} {staff : StaffId} {date : Date}
    {time : TimeOfDay} {excluding : Option BookingId}
    (h : (t.availability staff date time excluding).available = true) :
    t.taken staff date time excluding < t.capacityAt staff date time :=
  available_iff_taken_lt.1 h

theorem taken_none (t : BookingTables) (staff : StaffId) (date : Date) (time : TimeOfDay) :
    t.taken staff date time none = t.confirmedAt staff date time := by
  unfold taken confirmedAt
  exact List.countP_congr fun b _ => by simp

theorem fits_empty : empty.Fits := fun _ _ _ => Nat.zero_le _

/-! ## Each effect -/

theorem Fits.add_slot {t : BookingTables} (h : t.Fits) (s : TimeSlot) (n : Int64) :
    ({ t with slots := t.slots ++ [s], lastNumber := n } : BookingTables).Fits := by
  intro staff date time
  have hle := h staff date time
  unfold capacityAt covering? at hle ⊢
  rw [List.find?_append]
  cases hs : t.slots.find? fun s =>
      s.isActive && s.staffId == staff && s.startTime == time && s.occursOn date with
  | some slot =>
    rw [hs] at hle
    exact hle
  | none =>
    -- A time without a slot has no bookings, so any capacity will do.
    rw [hs] at hle
    exact Nat.le_trans hle (Nat.zero_le _)

theorem Fits.add_booking {t : BookingTables} (h : t.Fits) {b : Booking}
    (room : (t.availability b.staffId b.date b.time none).available = true) (n : Int64) :
    ({ t with bookings := t.bookings ++ [b], lastNumber := n } : BookingTables).Fits := by
  intro staff date time
  have hroom := taken_lt_of_available room
  rw [taken_none] at hroom
  have hle := h staff date time
  show (t.bookings ++ [b]).countP _ ≤ t.capacityAt staff date time
  rw [List.countP_append, List.countP_singleton]
  split
  · rename_i hb
    simp only [takes, Bool.and_eq_true, beq_iff_eq] at hb
    obtain ⟨⟨⟨-, rfl⟩, rfl⟩, rfl⟩ := hb
    exact hroom
  · exact hle

theorem Fits.cancel {t : BookingTables} (h : t.Fits) (p : Booking → Bool) :
    (t.update p fun b => { b with status := .cancelled }).Fits := by
  intro staff date time
  refine Nat.le_trans ?_ (h staff date time)
  show (updateFirst p _ t.bookings).countP _ ≤ t.bookings.countP _
  cases hb : t.bookings.find? p with
  | none =>
    exact Nat.le_of_eq (by rw [updateFirst_of_find?_eq_none hb])
  | some b =>
    have hc := countP_updateFirst (f := fun b => { b with status := .cancelled })
      (fun b => takes b staff date time) hb
    have hz : takes { b with status := .cancelled } staff date time = false := rfl
    rw [hz] at hc
    simp only [Bool.toNat_false] at hc
    omega

/-- A move counts the booking anew at its new time, where it was left out before. -/
theorem Fits.move {t : BookingTables} (h : t.Fits) (w : t.WellNumbered) {account : AccountId}
    {id : BookingId} {b : Booking} {slot : TimeSlot} {date : Date}
    (hb : t.bookings.find? (stands account id) = some b)
    (room : (t.availability slot.staffId date slot.startTime (some id)).available = true) :
    (t.update (stands account id) fun b => moved b slot date).Fits := by
  intro staff day time
  have hroom := taken_lt_of_available room
  have hle := h staff day time
  have hstands := List.find?_some hb
  simp only [stands, Bool.and_eq_true, beq_iff_eq] at hstands
  obtain ⟨⟨rfl, -⟩, -⟩ := hstands
  have hmove := countP_updateFirst (f := fun b => moved b slot date)
    (fun b => takes b staff day time) hb
  have hout := countP_ne_id (q := fun b => takes b staff day time) w.nodup_bookings
    (List.mem_of_find?_eq_some hb)
  show (updateFirst _ _ t.bookings).countP _ ≤ t.capacityAt staff day time
  unfold confirmedAt at hle
  cases ht : takes (moved b slot date) staff day time with
  | false =>
    rw [ht] at hmove
    simp only [Bool.toNat_false] at hmove
    omega
  | true =>
    rw [ht] at hmove
    simp only [takes, moved, Bool.and_eq_true, beq_iff_eq] at ht
    obtain ⟨⟨⟨-, rfl⟩, rfl⟩, rfl⟩ := ht
    unfold taken at hroom
    simp only [Bool.toNat_true] at hmove
    omega

theorem Fits.effect {t t' : BookingTables} (h : t.Fits) (w : t.WellNumbered)
    (e : Effect t t') : t'.Fits := by
  cases e with
  | department d hd => exact h
  | staff s hs => exact h
  | slot s hs => exact h.add_slot s _
  | booking b hb room => exact h.add_booking room _
  | cancelled account id => exact h.cancel _
  | moved account id b slot date hb room => exact h.move w hb room
  | nothing => exact h

theorem Fits.effects {t t' : BookingTables} (h : t.Fits) (w : t.WellNumbered)
    (run : Relation.ReflTransGen Effect t t') (few : t'.rowCount < 2 ^ 63) : t'.Fits := by
  induction run with
  | refl => exact h
  | tail run e ih =>
    have few' := Nat.lt_of_le_of_lt e.rowCount_le few
    exact (ih few').effect (w.effects run few') e

theorem fits_changeAll (changes : List BookingChange) {t : BookingTables} (h : t.Fits)
    (w : t.WellNumbered) (few : (t.changeAll changes).rowCount < 2 ^ 63) :
    (t.changeAll changes).Fits :=
  h.effects w (effects_foldl effect_change changes t) few

/-- Whatever was done to empty tables, with fewer than `2 ^ 63` numbers handed out, the bookings
that stand at a time are at most as many as the time can have. -/
theorem confirmedAt_changeAll_le (changes : List BookingChange)
    (few : (empty.changeAll changes).rowCount < 2 ^ 63) (staff : StaffId) (date : Date)
    (time : TimeOfDay) : (empty.changeAll changes).confirmedAt staff date time
      ≤ (empty.changeAll changes).capacityAt staff date time :=
  fits_changeAll changes fits_empty wellNumbered_empty few staff date time

/-- A monday that takes one booking, which moves to tuesday so that another one fits. -/
def crowdedMonday : List BookingChange :=
  let account : AccountId := ⟨⟨1⟩⟩
  let monday : Date := ⟨20521, by decide, by decide⟩
  let tuesday : Date := ⟨20522, by decide, by decide⟩
  let noon : TimeOfDay := ⟨43200, 0, by decide, by decide⟩
  let now : Instant := ⟨1773023400, 0, by decide, by decide, by decide⟩
  let request : BookingRequest :=
    ⟨account, ⟨1⟩, ⟨2⟩, ⟨3⟩, "919800000001", none, monday, noon, none, none⟩
  [.addDepartment account "Dental" none, .addStaff account ⟨1⟩ "Dr. Rao",
    .addSlot account ⟨2⟩ .monday noon 1, .addSlot account ⟨2⟩ .tuesday noon 1,
    .create request now, .create request now,
    .reschedule account ⟨5⟩ ⟨⟨4⟩, account, ⟨2⟩, .tuesday, noon, 1, true⟩ tuesday,
    .create request now]

theorem confirmedAt_crowdedMonday :
    (empty.changeAll crowdedMonday).rowCount = 6
      ∧ (empty.changeAll crowdedMonday).confirmedAt ⟨2⟩ ⟨20521, by decide, by decide⟩
          ⟨43200, 0, by decide, by decide⟩
        ≤ (empty.changeAll crowdedMonday).capacityAt ⟨2⟩ ⟨20521, by decide, by decide⟩
          ⟨43200, 0, by decide, by decide⟩ :=
  ⟨by decide, confirmedAt_changeAll_le crowdedMonday (by decide) _ _ _⟩

end BookingTables

end Dialogue
