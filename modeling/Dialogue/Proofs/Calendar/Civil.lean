import Dialogue.Calendar.Date

/-!
# The calendar counts days

Every day number has a year, a month and a day of the Gregorian calendar, and these have that day
number (`Civil.dayNumber_ofDayNumber`), so a date is given back by its year, month and day
(`Date.ofCivil?_civil`). Years are counted from March here, so that the leap day is the last day of
its year, in cycles of 400 years and 146097 days.
-/

namespace Dialogue

namespace Civil

/-- The number of days of a cycle that are before a year of it. -/
def daysBefore (y : Int) : Int := 365 * y + y / 4 - y / 100 + y / 400

/-- The year of a cycle that a day of it is in. -/
def yearOf (d : Int) : Int := (d - d / 1460 + d / 36524 - d / 146096) / 365

theorem yearOf_bounds {d : Int} (h₀ : 0 ≤ d) (h : d < 146097) :
    0 ≤ yearOf d ∧ yearOf d < 400 ∧ daysBefore (yearOf d) ≤ d ∧ d < daysBefore (yearOf d + 1) := by
  unfold yearOf daysBefore
  by_cases last : d = 146096
  · subst last
    decide
  rw [show d / 146096 = 0 by omega]
  generalize hc : d / 36524 = c
  generalize hq : d / 1460 = q
  generalize hy : (d - q + c - 0) / 365 = y
  -- The year is of the century `c`, and the leap days before it are among the `q` counted ones.
  have hc3 : 0 ≤ c ∧ c ≤ 3 := by omega
  have hcq : 25 * c ≤ q ∧ q < 25 * c + 26 := by omega
  have century : 100 * c ≤ y ∧ y < 100 * c + 100 := by omega
  have leap : y / 4 ≤ q ∧ q ≤ (y + 1) / 4 := by omega
  rw [show y / 100 = c by omega, show y / 400 = 0 by omega]
  refine ⟨by omega, by omega, by omega, ?_⟩
  by_cases turn : y = 100 * c + 99
  · have hundred : (y + 1) / 100 = c + 1 := by omega
    have four : (y + 1) / 4 = 25 * (c + 1) := by omega
    omega
  · have hundred : (y + 1) / 100 = c := by omega
    have fourHundred : (y + 1) / 400 = 0 := by omega
    omega

/-- The days of a year that are before the month with a number of months since March. -/
def daysBeforeMonth (m : Int) : Int := (153 * m + 2) / 5

/-- The number of months since March of a day of the year. -/
def monthOf (d : Int) : Int := (5 * d + 2) / 153

theorem monthOf_bounds {d : Int} (h₀ : 0 ≤ d) (h : d ≤ 365) :
    0 ≤ monthOf d ∧ monthOf d ≤ 11 ∧ daysBeforeMonth (monthOf d) ≤ d
      ∧ d < daysBeforeMonth (monthOf d + 1) := by
  unfold monthOf daysBeforeMonth
  omega

theorem isLeap_iff {y : Int} :
    isLeap y = true ↔ y % 4 = 0 ∧ (y % 100 ≠ 0 ∨ y % 400 = 0) := by
  simp [isLeap]

/-- A year that ends in a leap day is one day longer. -/
theorem daysBefore_add_one (y : Int) :
    daysBefore (y + 1) = daysBefore y + 365 + (isLeap (y + 1)).toNat := by
  unfold daysBefore
  cases leap : isLeap (y + 1) with
  | true =>
    rw [isLeap_iff] at leap
    simp only [Bool.toNat_true]
    omega
  | false =>
    rw [← Bool.not_eq_true, isLeap_iff] at leap
    simp only [Bool.toNat_false]
    omega

/-- The day with a number in a year of a cycle. -/
def ofYearDay (cycle y d : Int) : Civil :=
  let m := monthOf d
  let month := if m < 10 then m + 3 else m - 9
  let year := y + cycle * 400
  ⟨if month ≤ 2 then year + 1 else year, month.toNat, (d - daysBeforeMonth m + 1).toNat⟩

theorem ofDayNumber_eq (n : Int) : ofDayNumber n =
    let day := (n + 719468) % 146097
    let y := yearOf day
    ofYearDay ((n + 719468) / 146097) y (day - (365 * y + y / 4 - y / 100)) := rfl

/-- A day number is that of a day in a year of a cycle. -/
theorem exists_ofYearDay (n : Int) : ∃ cycle y d : Int, ofDayNumber n = ofYearDay cycle y d
    ∧ 0 ≤ y ∧ y < 400 ∧ 0 ≤ d ∧ d < 365 + (isLeap (y + 1)).toNat
    ∧ n = cycle * 146097 + daysBefore y + d - 719468 := by
  rw [ofDayNumber_eq]
  generalize hday : (n + 719468) % 146097 = day
  obtain ⟨hy₀, hy, hle, hlt⟩ := yearOf_bounds (d := day) (by omega) (by omega)
  rw [daysBefore_add_one] at hlt
  have before : daysBefore (yearOf day)
      = 365 * yearOf day + yearOf day / 4 - yearOf day / 100 := by
    unfold daysBefore
    omega
  exact ⟨_, _, _, rfl, hy₀, hy, by omega, by omega, by omega⟩

theorem ofYearDay_of_lt {cycle y d m : Int} (hm : monthOf d = m) (h₀ : 0 ≤ m) (h : m < 10) :
    ofYearDay cycle y d
      = ⟨y + cycle * 400, (m + 3).toNat, (d - daysBeforeMonth m + 1).toNat⟩ := by
  unfold ofYearDay
  simp only [hm, if_pos h]
  rw [if_neg (by omega)]

theorem ofYearDay_of_ge {cycle y d m : Int} (hm : monthOf d = m) (h : ¬ m < 10) (h₁ : m ≤ 11) :
    ofYearDay cycle y d
      = ⟨y + cycle * 400 + 1, (m - 9).toNat, (d - daysBeforeMonth m + 1).toNat⟩ := by
  unfold ofYearDay
  simp only [hm, if_neg h]
  rw [if_pos (by omega)]

theorem dayNumber_ofYearDay {cycle y d : Int} (hy₀ : 0 ≤ y) (hy : y < 400) (hd₀ : 0 ≤ d)
    (hd : d ≤ 365) :
    (ofYearDay cycle y d).dayNumber = cycle * 146097 + daysBefore y + d - 719468 := by
  obtain ⟨hm₀, hm, hle, hlt⟩ := monthOf_bounds hd₀ hd
  generalize h : monthOf d = m at *
  by_cases late : m < 10
  · rw [ofYearDay_of_lt h hm₀ late]
    unfold dayNumber daysBefore
    unfold daysBeforeMonth at *
    rw [if_neg (by simp; omega), if_neg (by simp; omega)]
    dsimp only
    omega
  · rw [ofYearDay_of_ge h late hm]
    unfold dayNumber daysBefore
    unfold daysBeforeMonth at *
    rw [if_pos (by simp; omega), if_pos (by simp; omega)]
    dsimp only
    omega

theorem isLeap_add (y cycle : Int) : isLeap (y + cycle * 400) = isLeap y := by
  rw [Bool.eq_iff_iff, isLeap_iff, isLeap_iff]
  omega

theorem isReal_iff {c : Civil} : c.isReal = true ↔
    1 ≤ c.month ∧ c.month ≤ 12 ∧ 1 ≤ c.day ∧ c.day ≤ daysIn c.year c.month := by
  unfold isReal
  simp only [Bool.and_eq_true, decide_eq_true_eq, and_assoc]

theorem isReal_ofYearDay {cycle y d : Int} (hd₀ : 0 ≤ d)
    (hd : d < 365 + (isLeap (y + 1)).toNat) : (ofYearDay cycle y d).isReal = true := by
  have leap : (isLeap (y + 1)).toNat ≤ 1 := Bool.toNat_le _
  obtain ⟨hm₀, hm, hle, hlt⟩ := monthOf_bounds hd₀ (by omega)
  generalize h : monthOf d = m at *
  rw [isReal_iff]
  by_cases late : m < 10
  · rw [ofYearDay_of_lt h hm₀ late]
    unfold daysBeforeMonth at *
    have days : d - (153 * m + 2) / 5 + 1 ≤ daysIn (y + cycle * 400) (m + 3).toNat := by
      unfold daysIn
      rw [if_neg (by simp; omega)]
      split
      · rename_i short
        simp only [Bool.or_eq_true, beq_iff_eq] at short
        omega
      · rename_i short
        simp only [Bool.or_eq_true, beq_iff_eq] at short
        omega
    dsimp only
    omega
  · rw [ofYearDay_of_ge h late hm]
    unfold daysBeforeMonth at *
    have days : d - (153 * m + 2) / 5 + 1 ≤ daysIn (y + cycle * 400 + 1) (m - 9).toNat := by
      rcases (show m = 10 ∨ m = 11 by omega) with rfl | rfl
      · show _ ≤ ((31 : Nat) : Int)
        omega
      · rw [show y + cycle * 400 + 1 = y + 1 + cycle * 400 by omega]
        show _ ≤ (((if isLeap (y + 1 + cycle * 400) then 29 else 28 : Nat)) : Int)
        rw [isLeap_add]
        cases h : isLeap (y + 1) <;> simp [h] at hd ⊢ <;> omega
    dsimp only
    omega

/-- A day number is given back by its year, month and day. -/
theorem dayNumber_ofDayNumber (n : Int) : (ofDayNumber n).dayNumber = n := by
  obtain ⟨cycle, y, d, hc, hy₀, hy, hd₀, hd, hn⟩ := exists_ofYearDay n
  have leap : (isLeap (y + 1)).toNat ≤ 1 := Bool.toNat_le _
  rw [hc, dayNumber_ofYearDay hy₀ hy hd₀ (by omega)]
  exact hn.symm

theorem isReal_ofDayNumber (n : Int) : (ofDayNumber n).isReal = true := by
  obtain ⟨cycle, y, d, hc, -, -, hd₀, hd, -⟩ := exists_ofYearDay n
  rw [hc]
  exact isReal_ofYearDay hd₀ hd

end Civil

namespace Date

theorem ofCivil?_civil (d : Date) : ofCivil? d.civil = some d := by
  unfold ofCivil? civil
  rw [if_pos (Civil.isReal_ofDayNumber d.day), Civil.dayNumber_ofDayNumber]
  unfold ofDay?
  rw [dif_pos ⟨d.first_le, d.le_last⟩]

end Date

end Dialogue
