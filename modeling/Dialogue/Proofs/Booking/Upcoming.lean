import Mathlib.Data.List.Nodup
import Dialogue.Proofs.Booking.Yields

/-!
# Which times are offered

The upcoming occurrences of slots are on dates from today on, and no slot occurs twice on a date
(`Occurrence.nodup_upcoming`). The times that are offered for a member of staff are the first of
these that have room (`BookingTables.yields_openTimes`).
-/

namespace Dialogue

theorem Date.day_of_addDays? {d e : Date} {n : Nat} (h : d.addDays? n = some e) :
    e.day = d.day + n := by
  unfold addDays? ofDay? at h
  split at h
  · cases h
    rfl
  · cases h

theorem Date.eq_of_day_eq {d e : Date} (h : d.day = e.day) : d = e := by
  cases d
  cases e
  cases h
  rfl

/-- A date without a next one is the last of the calendar. -/
theorem Date.day_eq_lastDay {d : Date} (h : d.addDays? 1 = none) : d.day = lastDay := by
  have first := d.first_le
  have last := d.le_last
  unfold addDays? ofDay? at h
  split at h
  · cases h
  · omega

namespace Occurrence

variable {slots : List TimeSlot} {today : Date} {now : TimeOfDay}

/-- The dates from a date on are the next ones that the calendar has. -/
theorem mem_datesFrom {date start : Date} {n : Nat} :
    date ∈ datesFrom start n ↔ start ≤ date ∧ date.day < start.day + n := by
  induction n generalizing start with
  | zero =>
    refine iff_of_false List.not_mem_nil fun h => ?_
    have le : start.day ≤ date.day := h.1
    omega
  | succ n ih =>
    have later : start ≤ date ∧ date.day < start.day + (n + 1 : Nat)
        ↔ date = start ∨ start.day + 1 ≤ date.day ∧ date.day < start.day + 1 + n := by
      constructor
      · rintro ⟨le, lt⟩
        rcases Int.lt_or_eq_of_le (show start.day ≤ date.day from le) with h | h
        · exact .inr (by omega)
        · exact .inl (Date.eq_of_day_eq h.symm)
      · rintro (rfl | h)
        · exact ⟨Int.le_refl _, by omega⟩
        · exact ⟨show start.day ≤ date.day by omega, by omega⟩
    unfold datesFrom
    rw [List.mem_cons, later]
    refine or_congr_right ?_
    split
    · rename_i next hnext
      have step := Date.day_of_addDays? hnext
      rw [ih]
      show next.day ≤ date.day ∧ _ ↔ _
      rw [step]
      rfl
    · rename_i hnone
      have last := Date.day_eq_lastDay hnone
      have le := date.le_last
      exact iff_of_false List.not_mem_nil (by omega)

theorem le_of_mem_datesFrom {date : Date} {n : Nat} {start : Date}
    (h : date ∈ datesFrom start n) : start ≤ date := (mem_datesFrom.1 h).1

theorem nodup_datesFrom (n : Nat) (start : Date) : (datesFrom start n).Nodup := by
  induction n generalizing start with
  | zero => exact List.nodup_nil
  | succ n ih =>
    unfold datesFrom
    rw [List.nodup_cons]
    split
    · rename_i next hnext
      refine ⟨fun h => ?_, ih next⟩
      have step := Date.day_of_addDays? hnext
      have later : next.day ≤ start.day := le_of_mem_datesFrom h
      omega
    · exact ⟨List.not_mem_nil, List.nodup_nil⟩

theorem mem_onDate {date : Date} {o : Occurrence} :
    o ∈ onDate slots today now date ↔ o.date = date ∧ o.slot ∈ slots ∧ o.slot.isActive = true
      ∧ o.slot.occursOn date = true ∧ ¬ (date = today ∧ o.slot.startTime ≤ now) := by
  unfold onDate
  rw [List.mem_map]
  constructor
  · rintro ⟨slot, hslot, rfl⟩
    obtain ⟨hmem, h⟩ := List.mem_filter.1 hslot
    simp only [Bool.and_eq_true, Bool.not_eq_true', Bool.and_eq_false_imp, beq_iff_eq,
      decide_eq_false_iff_not] at h
    exact ⟨rfl, hmem, h.1.1, h.1.2, fun started => h.2 started.1 started.2⟩
  · rintro ⟨rfl, hmem, active, occurs, ahead⟩
    refine ⟨o.slot, List.mem_filter.2 ⟨hmem, ?_⟩, rfl⟩
    simp only [Bool.and_eq_true, Bool.not_eq_true', Bool.and_eq_false_imp, beq_iff_eq,
      decide_eq_false_iff_not]
    exact ⟨⟨active, occurs⟩, fun same started => ahead ⟨same, started⟩⟩

/-- The occurrences that are upcoming. -/
theorem mem_upcoming {daysAhead : UInt32} {o : Occurrence} :
    o ∈ upcoming slots today now daysAhead ↔ o.date ∈ datesFrom today daysAhead.toNat
      ∧ o.slot ∈ slots ∧ o.slot.isActive = true ∧ o.slot.occursOn o.date = true
      ∧ ¬ (o.date = today ∧ o.slot.startTime ≤ now) := by
  unfold upcoming
  rw [List.mem_mergeSort, List.mem_flatMap]
  constructor
  · rintro ⟨date, hdate, ho⟩
    obtain ⟨rfl, h⟩ := mem_onDate.1 ho
    exact ⟨hdate, h⟩
  · rintro ⟨hdate, h⟩
    exact ⟨o.date, hdate, mem_onDate.2 ⟨rfl, h⟩⟩

/-- No slot occurs twice on a date. -/
theorem nodup_upcoming (h : slots.Nodup) (daysAhead : UInt32) :
    (upcoming slots today now daysAhead).Nodup := by
  unfold upcoming
  rw [(List.mergeSort_perm _ _).nodup_iff, List.nodup_flatMap]
  constructor
  · intro date _
    unfold onDate
    exact (h.filter _).map fun s s' hs => (Occurrence.mk.inj hs).1
  · refine (nodup_datesFrom _ today).imp fun {d e} hne o hd he => hne ?_
    rw [← (mem_onDate.1 hd).1, (mem_onDate.1 he).1]

end Occurrence

namespace BookingTables

variable {β : Type} {t : BookingTables} {now : Instant} {c : Context}
  {post : β → Context → BookingTables → Prop}

/-! ## The times that are offered -/

/-- Whether an occurrence has room. -/
def hasRoom (t : BookingTables) (staff : StaffId) (excluding : Option BookingId)
    (o : Occurrence) : Bool :=
  (t.availability staff o.date o.slot.startTime excluding).available

/-- The slots of a member of staff that are in use. -/
def slotsOf (t : BookingTables) (account : AccountId) (staff : StaffId) : List TimeSlot :=
  t.slots.filter fun s => s.accountId == account && s.staffId == staff && s.isActive

/-- The first upcoming occurrences of a member of staff that have room. -/
def openTimes (t : BookingTables) (v : Visit) (staff : StaffId) (configured : Option UInt32)
    (excluding : Option BookingId) : List Occurrence :=
  ((Occurrence.upcoming (t.slotsOf v.accountId staff) v.today v.now (v.days configured)).filter
    (t.hasRoom staff excluding)).take Occurrence.maxRows

theorem yields_firstOpen (staff : StaffId) (excluding : Option BookingId) :
    ∀ (n : Nat) (times : List Occurrence), t.Yields now (Visit.firstOpen staff excluding n times) c
      fun found c' t' => found = (times.filter (t.hasRoom staff excluding)).take n ∧ c' = c ∧ t' = t
  | 0, times => by
    unfold Visit.firstOpen
    exact yields_pure ⟨List.take_zero.symm, rfl, rfl⟩
  | n + 1, [] => by
    unfold Visit.firstOpen
    exact yields_pure ⟨rfl, rfl, rfl⟩
  | n + 1, o :: r => by
    unfold Visit.firstOpen
    refine yields_ask ?_
    change t.Yields now (if t.hasRoom staff excluding o = true then _ else _) c _
    rw [List.filter_cons]
    split
    · refine (yields_firstOpen staff excluding n r).bind fun found c' t' h => ?_
      obtain ⟨rfl, rfl, rfl⟩ := h
      exact yields_pure ⟨rfl, rfl, rfl⟩
    · -- A time without room does not count against the number of times that are shown.
      exact yields_firstOpen staff excluding (n + 1) r

theorem yields_openTimes {v : Visit} {staff : StaffId} {configured : Option UInt32}
    {excluding : Option BookingId} {f : List Occurrence → BookingWork β}
    (h : t.Yields now (f (t.openTimes v staff configured excluding)) c post) :
    t.Yields now (v.openTimes staff configured excluding >>= f) c post := by
  have found : t.Yields now (v.openTimes staff configured excluding) c fun times c' t' =>
      times = t.openTimes v staff configured excluding ∧ c' = c ∧ t' = t := by
    unfold Visit.openTimes
    refine yields_ask ?_
    exact yields_firstOpen staff excluding _ _
  refine found.bind fun times c' t' same => ?_
  obtain ⟨rfl, rfl, rfl⟩ := same
  exact h

section OpenTimes

variable (v : Visit) (staff : StaffId) (configured : Option UInt32) (excluding : Option BookingId)

theorem length_openTimes_le :
    (t.openTimes v staff configured excluding).length ≤ Occurrence.maxRows :=
  List.length_take_le _ _

theorem nodup_openTimes (h : t.slots.Nodup) :
    (t.openTimes v staff configured excluding).Nodup :=
  ((Occurrence.nodup_upcoming (h.filter _) _).filter _).sublist (List.take_sublist _ _)

variable {v staff configured excluding}

/-- What is offered is a slot of the member of staff on one of its dates that is not past. -/
theorem mem_openTimes {o : Occurrence} (h : o ∈ t.openTimes v staff configured excluding) :
    o.slot ∈ t.slots ∧ o.slot.accountId = v.accountId ∧ o.slot.staffId = staff
      ∧ o.slot.isActive = true ∧ o.slot.occursOn o.date = true ∧ v.today ≤ o.date := by
  obtain ⟨upcoming, -⟩ := List.mem_filter.1 (List.mem_of_mem_take h)
  obtain ⟨hdate, hslot, active, occurs, -⟩ := Occurrence.mem_upcoming.1 upcoming
  obtain ⟨hmem, hp⟩ := List.mem_filter.1 hslot
  simp only [Bool.and_eq_true, beq_iff_eq] at hp
  exact ⟨hmem, hp.1.1, hp.1.2, active, occurs, Occurrence.le_of_mem_datesFrom hdate⟩

end OpenTimes

end BookingTables

end Dialogue
