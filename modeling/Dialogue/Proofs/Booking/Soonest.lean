import Mathlib.Data.List.Count
import Mathlib.Data.Prod.Lex
import Mathlib.Data.Int.Order.Basic
import Dialogue.Proofs.Booking.Upcoming

/-!
# What is upcoming, how often and in which order

A slot is due on a date if it is in use and recurs on it, the date is one of a number of days from
today on, and the time has not started if it is today's. The upcoming occurrences are those that are
due, each as often as its slot is listed, by date, then time, then number of the slot
(`Occurrence.upcoming_exactly`).
-/

namespace Dialogue

theorem TimeOfDay.eq_of_rank_eq {a b : TimeOfDay} (h : a.rank = b.rank) : a = b := by
  have lt := a.nano_lt
  have lt' := b.nano_lt
  unfold rank at h
  have second : a.second = b.second := by omega
  have nano : a.nano = b.nano := by omega
  cases a
  cases b
  cases second
  cases nano
  rfl

namespace Occurrence

/-- The occurrence is one of a listed slot that is in use, on a date that it recurs on, among a
number of days from today on as far as the calendar goes, and not one of today's that has
started. -/
structure Due (slots : List TimeSlot) (today : Date) (now : TimeOfDay) (days : Nat)
    (o : Occurrence) : Prop where
  listed : o.slot ∈ slots
  active : o.slot.isActive = true
  weekday : o.date.weekday = o.slot.weekday
  today_le : today.day ≤ o.date.day
  within : o.date.day < today.day + days
  not_started : ¬ (o.date = today ∧ o.slot.startTime ≤ now)

/-- What occurrences are ordered by: the date, then the time, then the number of the slot. -/
def key (o : Occurrence) : Int ×ₗ Nat ×ₗ Int :=
  toLex (o.date.day, toLex (o.slot.startTime.rank, o.slot.id.number.toInt))

variable {slots : List TimeSlot} {today : Date} {now : TimeOfDay} {o : Occurrence}

theorem due_iff {days : Nat} : o.Due slots today now days ↔ o.date ∈ datesFrom today days
    ∧ o.slot ∈ slots ∧ o.slot.isActive = true ∧ o.slot.occursOn o.date = true
    ∧ ¬ (o.date = today ∧ o.slot.startTime ≤ now) := by
  unfold TimeSlot.occursOn
  rw [mem_datesFrom, beq_iff_eq]
  constructor
  · rintro ⟨listed, active, weekday, today_le, within, not_started⟩
    exact ⟨⟨today_le, within⟩, listed, active, weekday, not_started⟩
  · rintro ⟨⟨today_le, within⟩, listed, active, weekday, not_started⟩
    exact ⟨listed, active, weekday, today_le, within, not_started⟩

instance {days : Nat} : Decidable (o.Due slots today now days) :=
  decidable_of_iff _ due_iff.symm

/-! ## How often -/

theorem count_onDate (active : o.slot.isActive = true) (occurs : o.slot.occursOn o.date = true)
    (not_started : ¬ (o.date = today ∧ o.slot.startTime ≤ now)) :
    (onDate slots today now o.date).count o = slots.count o.slot := by
  have injective : Function.Injective fun s : TimeSlot => Occurrence.mk s o.date :=
    fun s s' h => (Occurrence.mk.inj h).1
  have counted := List.count_map_of_injective
    (slots.filter fun s => s.isActive && s.occursOn o.date
      && !(o.date == today && decide (s.startTime ≤ now))) _ injective o.slot
  refine counted.trans (List.count_filter ?_)
  simp only [active, occurs, Bool.and_self, Bool.true_and, Bool.not_eq_true',
    Bool.and_eq_false_imp, beq_iff_eq, decide_eq_false_iff_not]
  exact fun same started => not_started ⟨same, started⟩

/-- A date comes once, so on the dates together there is what there is on the occurrence's own. -/
theorem count_flatMap_onDate {dates : List Date} (nodup : dates.Nodup) (mem : o.date ∈ dates) :
    (dates.flatMap (onDate slots today now)).count o
      = (onDate slots today now o.date).count o := by
  obtain ⟨before, after, rfl⟩ := List.append_of_mem mem
  have apart := List.nodup_middle.1 nodup
  have elsewhere (l : List Date) (h : o.date ∉ l) :
      (l.flatMap (onDate slots today now)).count o = 0 := by
    refine List.count_eq_zero.2 fun hmem => ?_
    obtain ⟨date, hdate, ho⟩ := List.mem_flatMap.1 hmem
    exact h ((mem_onDate.1 ho).1 ▸ hdate)
  have notMem := (List.nodup_cons.1 apart).1
  rw [List.flatMap_append, List.flatMap_cons, List.count_append, List.count_append,
    elsewhere before fun h => notMem (List.mem_append_left _ h),
    elsewhere after fun h => notMem (List.mem_append_right _ h), Nat.zero_add, Nat.add_zero]

theorem count_upcoming (daysAhead : UInt32) (o : Occurrence) :
    (upcoming slots today now daysAhead).count o
      = if o.Due slots today now daysAhead.toNat then slots.count o.slot else 0 := by
  split
  · rename_i due
    obtain ⟨hdate, -, active, occurs, not_started⟩ := due_iff.1 due
    unfold upcoming
    rw [(List.mergeSort_perm _ _).count_eq, count_flatMap_onDate (nodup_datesFrom _ _) hdate,
      count_onDate active occurs not_started]
  · rename_i other
    exact List.count_eq_zero.2 fun h => other (due_iff.2 (mem_upcoming.1 h))

/-! ## In which order -/

theorem precedes_iff {a b : Occurrence} : a.precedes b = true ↔ a.key ≤ b.key := by
  have date_eq : a.date = b.date ↔ a.date.day = b.date.day :=
    ⟨congrArg Date.day, Date.eq_of_day_eq⟩
  have time_eq : a.slot.startTime = b.slot.startTime
      ↔ a.slot.startTime.rank = b.slot.startTime.rank :=
    ⟨congrArg TimeOfDay.rank, TimeOfDay.eq_of_rank_eq⟩
  unfold precedes key
  simp only [Prod.Lex.toLex_le_toLex, Bool.or_eq_true, Bool.and_eq_true, decide_eq_true_eq,
    beq_iff_eq, date_eq, time_eq, Int64.le_iff_toInt_le]
  rfl

theorem pairwise_upcoming (daysAhead : UInt32) :
    (upcoming slots today now daysAhead).Pairwise fun a b => a.key ≤ b.key := by
  refine (List.pairwise_mergeSort ?_ ?_ _).imp precedes_iff.1
  · intro a b c ab bc
    exact precedes_iff.2 ((precedes_iff.1 ab).trans (precedes_iff.1 bc))
  · intro a b
    rw [Bool.or_eq_true, precedes_iff, precedes_iff]
    exact le_total _ _

/-- Whatever the slots, the day, the time and the number of days: the upcoming occurrences are the
ones that are due, each as often as its slot is listed, ordered by date, time and number of the
slot. -/
theorem upcoming_exactly (slots : List TimeSlot) (today : Date) (now : TimeOfDay)
    (daysAhead : UInt32) :
    (∀ o, o ∈ upcoming slots today now daysAhead ↔ o.Due slots today now daysAhead.toNat)
      ∧ (∀ o, (upcoming slots today now daysAhead).count o
        = if o.Due slots today now daysAhead.toNat then slots.count o.slot else 0)
      ∧ (upcoming slots today now daysAhead).Pairwise fun a b => a.key ≤ b.key :=
  ⟨fun _ => mem_upcoming.trans due_iff.symm, count_upcoming daysAhead, pairwise_upcoming daysAhead⟩

end Occurrence

end Dialogue
