import Dialogue.Proofs.Calendar.Compact
import Dialogue.Workflow

/-!
# Dates with hyphens

A date is read back from its text (`Calendar.date?_text`), also outside the years 0 to 9999: the
hyphen behind the year ends its digits, however many there are.
-/

namespace Dialogue

open Text

namespace Calendar

theorem trimStartChars_hyphen (r : List Char) : trimStartChars ('-' :: r) = '-' :: r :=
  List.dropWhile_cons_of_neg (by decide)

@[simp]
theorem takeMark?_hyphen (r : List Char) : takeMark? '-' ('-' :: r) = some r := by
  unfold takeMark?
  rw [trimStartChars_hyphen]
  exact if_pos rfl

/-- Digits are taken up to a hyphen. -/
theorem takeDigits?_hyphen {s : List Char} (hs : IsDigits s) (hne : s ≠ []) (r : List Char) :
    takeDigits? (s ++ '-' :: r).length (s ++ '-' :: r) = some (s, '-' :: r) := by
  have taken : (s ++ '-' :: r).takeWhile Char.isDigit = s := by
    rw [List.takeWhile_append_of_pos hs, List.takeWhile_cons_of_neg (by decide), List.append_nil]
  unfold takeDigits?
  rw [List.take_length]
  simp only [taken]
  rw [if_neg (by simpa using hne), List.drop_left]

theorem takeYear?_yearChars (year : Int) (r : List Char) :
    takeYear? (Date.yearChars year ++ '-' :: r) = some (year, '-' :: r) := by
  have digits := takeDigits?_hyphen (isDigits_paddedChars 4 year.natAbs)
    (paddedChars_ne_nil 4 year.natAbs) r
  by_cases plain : 0 ≤ year ∧ year ≤ 9999
  · rw [Date.yearChars_of_plain plain, takeYear?_paddedChars (by omega),
      Int.toNat_of_nonneg plain.1]
  · rw [Date.yearChars_of_not_plain plain, List.cons_append]
    by_cases negative : year < 0
    · rw [if_pos negative]
      unfold takeYear?
      rw [trimStartChars_hyphen]
      simp only [digits, Option.map_some, digitsNumber_paddedChars]
      rw [show -(year.natAbs : Int) = year by omega]
    · rw [if_neg negative]
      have sign : trimStartChars ('+' :: (paddedChars 4 year.natAbs ++ '-' :: r))
          = '+' :: (paddedChars 4 year.natAbs ++ '-' :: r) :=
        List.dropWhile_cons_of_neg (by decide)
      unfold takeYear?
      rw [sign]
      simp only [digits, Option.map_some, digitsNumber_paddedChars]
      rw [show (year.natAbs : Int) = year by omega]

theorem date?_text (d : Date) : date? d.text = some d := by
  have day := takeNumber?_paddedChars (by decide : 0 < 2) d.day_lt []
  rw [List.append_nil] at day
  have taken : takeDate? d.text.toList = some (d.civil, []) := by
    unfold takeDate? Date.text
    dsimp only
    rw [String.toList_ofList, List.append_assoc, List.cons_append, takeYear?_yearChars]
    simp only [Option.bind_eq_bind, Option.bind_some, takeMark?_hyphen,
      takeNumber?_paddedChars (by decide : 0 < 2) d.month_lt, day]
    rfl
  unfold date?
  rw [taken]
  exact d.ofCivil?_civil

end Calendar

@[simp]
theorem Date.ofJson?_toJson (d : Date) : ofJson? d.toJson = some d := Calendar.date?_text d

end Dialogue
