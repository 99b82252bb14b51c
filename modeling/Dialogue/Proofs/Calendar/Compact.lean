import Mathlib.Data.List.TakeWhile
import Dialogue.Proofs.Calendar.Civil
import Dialogue.Proofs.Text.Digits

/-!
# Dates without anything between the digits

The eight digits of a date of the years 0 to 9999 are read back (`compactDate?_compactChars`).
Outside these years a date has a sign in front, and the reader takes every digit behind a sign for
the year, so that nothing is left for the month (`compactDate?_compactChars_eq_none`); but even so no
two dates are written the same (`Date.compactChars_injective`).
-/

namespace Dialogue

open Text

namespace Date

/-- The year is one of four digits. -/
def HasPlainYear (d : Date) : Prop := 0 ≤ d.civil.year ∧ d.civil.year ≤ 9999

instance (d : Date) : Decidable d.HasPlainYear :=
  inferInstanceAs (Decidable (0 ≤ d.civil.year ∧ d.civil.year ≤ 9999))

theorem month_lt (d : Date) : d.civil.month < 100 := by
  have := (Civil.isReal_iff.1 (Civil.isReal_ofDayNumber d.day)).2.1
  unfold civil
  omega

theorem day_lt (d : Date) : d.civil.day < 100 := by
  have h := (Civil.isReal_iff.1 (Civil.isReal_ofDayNumber d.day)).2.2.2
  have : Civil.daysIn (Civil.ofDayNumber d.day).year (Civil.ofDayNumber d.day).month ≤ 31 := by
    unfold Civil.daysIn
    split
    · split <;> decide
    · split <;> decide
  unfold civil
  omega

theorem yearChars_of_plain {year : Int} (h : 0 ≤ year ∧ year ≤ 9999) :
    yearChars year = paddedChars 4 year.toNat := by
  unfold yearChars
  rw [if_pos (by simpa using h)]

theorem yearChars_of_not_plain {year : Int} (h : ¬ (0 ≤ year ∧ year ≤ 9999)) :
    yearChars year = (if year < 0 then '-' else '+') :: paddedChars 4 year.natAbs := by
  unfold yearChars
  rw [if_neg (by simpa using h)]

end Date

namespace Calendar

theorem takeDigits?_append {s : List Char} (hs : IsDigits s) (hne : s ≠ []) (r : List Char) :
    takeDigits? s.length (s ++ r) = some (s, r) := by
  unfold takeDigits?
  have taken : (List.take s.length (s ++ r)).takeWhile Char.isDigit = s := by
    rw [List.take_left]
    exact List.takeWhile_eq_self_iff.2 hs
  simp only [taken]
  rw [if_neg (by simpa using hne), List.drop_left]

theorem takeNumber?_paddedChars {width n : Nat} (hw : 0 < width) (h : n < 10 ^ width)
    (r : List Char) : takeNumber? width (paddedChars width n ++ r) = some (n, r) := by
  have hs := isDigits_paddedChars width n
  have hne := paddedChars_ne_nil width n
  have taken := takeDigits?_append hs hne r
  rw [length_paddedChars hw h] at taken
  unfold takeNumber?
  rw [trimStartChars_append hs hne, taken]
  show some (digitsNumber (paddedChars width n), r) = _
  rw [digitsNumber_paddedChars]

theorem takeYear?_paddedChars {n : Nat} (h : n < 10000) (r : List Char) :
    takeYear? (paddedChars 4 n ++ r) = some ((n : Int), r) := by
  have hs := isDigits_paddedChars 4 n
  have hne := paddedChars_ne_nil 4 n
  have taken := takeDigits?_append hs hne r
  rw [length_paddedChars (by decide) h] at taken
  unfold takeYear?
  rw [trimStartChars_append hs hne]
  split
  · rename_i hr
    exact absurd hr (hs.append_ne_cons hne (by decide) _ _)
  · rename_i hr
    exact absurd hr (hs.append_ne_cons hne (by decide) _ _)
  · rw [taken]
    show some ((digitsNumber (paddedChars 4 n) : Int), r) = _
    rw [digitsNumber_paddedChars]

/-- A date of four digits of the year is read back. -/
theorem compactDate?_compactChars {d : Date} (h : d.HasPlainYear) :
    compactDate? d.compactChars = some d := by
  have year : ((d.civil.year.toNat : Nat) : Int) = d.civil.year := Int.toNat_of_nonneg h.1
  have taken := takeYear?_paddedChars (n := d.civil.year.toNat) (by have := h.2; omega)
    (paddedChars 2 d.civil.month ++ paddedChars 2 d.civil.day)
  have day := takeNumber?_paddedChars (by decide : 0 < 2) d.day_lt []
  rw [List.append_nil] at day
  unfold compactDate? Date.compactChars
  dsimp only
  rw [Date.yearChars_of_plain h, List.append_assoc, taken]
  simp only [Option.bind_eq_bind, Option.bind_some]
  rw [takeNumber?_paddedChars (by decide) d.month_lt]
  simp only [Option.bind_some]
  rw [day]
  simp only [Option.bind_some, List.isEmpty_nil, if_true]
  rw [year]
  exact d.ofCivil?_civil

/-- Behind a sign every digit belongs to the year. -/
theorem takeYear?_sign {s : List Char} (hs : IsDigits s) (hne : s ≠ []) (year : Int) :
    ∃ n, takeYear? ((if year < 0 then '-' else '+') :: s) = some (n, []) := by
  have taken := takeDigits?_append hs hne []
  rw [List.append_nil] at taken
  by_cases h : year < 0
  · refine ⟨-(digitsNumber s : Int), ?_⟩
    have trimmed : trimStartChars ('-' :: s) = '-' :: s := rfl
    rw [if_pos h]
    unfold takeYear?
    rw [trimmed]
    simp only [taken, Option.map_some]
  · refine ⟨digitsNumber s, ?_⟩
    have trimmed : trimStartChars ('+' :: s) = '+' :: s := rfl
    rw [if_neg h]
    unfold takeYear?
    rw [trimmed]
    simp only [taken, Option.map_some]

/-- A date of any other year is not read back. -/
theorem compactDate?_compactChars_eq_none {d : Date} (h : ¬ d.HasPlainYear) :
    compactDate? d.compactChars = none := by
  have digits : IsDigits (paddedChars 4 d.civil.year.natAbs
      ++ (paddedChars 2 d.civil.month ++ paddedChars 2 d.civil.day)) :=
    (isDigits_paddedChars 4 _).append
      ((isDigits_paddedChars 2 _).append (isDigits_paddedChars 2 _))
  obtain ⟨n, taken⟩ := takeYear?_sign digits
    (List.append_ne_nil_of_left_ne_nil (paddedChars_ne_nil 4 _) _) d.civil.year
  have none_left : takeNumber? 2 [] = none := by decide
  unfold compactDate? Date.compactChars
  dsimp only
  rw [Date.yearChars_of_not_plain h, List.append_assoc, List.cons_append, taken]
  simp only [Option.bind_eq_bind, Option.bind_some]
  rw [none_left]
  rfl

end Calendar

namespace Date

/-- Digits do not start with a sign. -/
theorem paddedChars_ne_sign (n : Nat) (year : Int) (s : List Char) :
    paddedChars 4 n ≠ (if year < 0 then '-' else '+') :: s := by
  have sign : (if year < 0 then '-' else '+').isDigit = false := by
    split <;> decide
  rw [← List.append_nil (paddedChars 4 n)]
  exact (isDigits_paddedChars 4 n).append_ne_cons (paddedChars_ne_nil 4 n) sign _ _

theorem yearChars_injective {m n : Int} (h : yearChars m = yearChars n) : m = n := by
  by_cases hm : 0 ≤ m ∧ m ≤ 9999 <;> by_cases hn : 0 ≤ n ∧ n ≤ 9999
  · rw [yearChars_of_plain hm, yearChars_of_plain hn] at h
    have := paddedChars_injective 4 h
    omega
  · rw [yearChars_of_plain hm, yearChars_of_not_plain hn] at h
    exact absurd h (paddedChars_ne_sign _ _ _)
  · rw [yearChars_of_not_plain hm, yearChars_of_plain hn] at h
    exact absurd h.symm (paddedChars_ne_sign _ _ _)
  · rw [yearChars_of_not_plain hm, yearChars_of_not_plain hn] at h
    obtain ⟨hsign, hdigits⟩ := List.cons.inj h
    have digits := paddedChars_injective 4 hdigits
    by_cases hm₀ : m < 0 <;> by_cases hn₀ : n < 0
    · omega
    · rw [if_pos hm₀, if_neg hn₀] at hsign
      exact absurd hsign (by decide)
    · rw [if_neg hm₀, if_pos hn₀] at hsign
      exact absurd hsign (by decide)
    · omega

theorem compactChars_injective {d e : Date} (h : d.compactChars = e.compactChars) : d = e := by
  unfold compactChars at h
  dsimp only at h
  obtain ⟨h, hday⟩ := List.append_inj' h (by
    rw [length_paddedChars (by decide) d.day_lt, length_paddedChars (by decide) e.day_lt])
  obtain ⟨hyear, hmonth⟩ := List.append_inj' h (by
    rw [length_paddedChars (by decide) d.month_lt, length_paddedChars (by decide) e.month_lt])
  have civil : d.civil = e.civil := by
    rw [show d.civil = ⟨d.civil.year, d.civil.month, d.civil.day⟩ from rfl,
      yearChars_injective hyear, paddedChars_injective 2 hmonth, paddedChars_injective 2 hday]
  have back := d.ofCivil?_civil
  rw [civil, e.ofCivil?_civil] at back
  exact (Option.some.inj back).symm

end Date

end Dialogue
