import Dialogue.Proofs.Booking.RowId
import Dialogue.Proofs.Graph.Answerable

/-!
# Rows that were pressed

The provider may put a namespace and a colon in front of the identifier of the row that a
participant pressed, and a client may leave out the lead. However a row identifier comes back, it
gives the selection it was written for or, if the year of its date is not one of four digits,
nothing (`Selection.rowId_read_back`). So a press never selects something else.
-/

namespace Dialogue

open Text

namespace Date

theorem not_mem_compactChars {c : Char} (digit : c.isDigit = false) (minus : c ≠ '-')
    (plus : c ≠ '+') (d : Date) : c ∉ d.compactChars := by
  have padded (width n : Nat) : c ∉ paddedChars width n :=
    (isDigits_paddedChars width n).not_mem digit
  have year : c ∉ yearChars d.civil.year := by
    by_cases h : 0 ≤ d.civil.year ∧ d.civil.year ≤ 9999
    · rw [yearChars_of_plain h]
      exact padded 4 _
    · rw [yearChars_of_not_plain h, List.mem_cons, not_or]
      refine ⟨?_, padded 4 _⟩
      split
      · exact minus
      · exact plus
  unfold compactChars
  simp only [List.mem_append, not_or]
  exact ⟨⟨year, padded 2 _⟩, padded 2 _⟩

end Date

namespace Selection

theorem not_mem_dateChars (s : Selection) : ':' ∉ s.dateChars := by
  unfold dateChars
  cases s.date? with
  | none => exact List.not_mem_nil
  | some d =>
    rw [List.mem_cons, not_or]
    exact ⟨by decide, Date.not_mem_compactChars (by decide) (by decide) (by decide) d⟩

/-- The mark of a namespace stands in no row identifier. -/
theorem not_mem_rowId (s : Selection) : ':' ∉ s.rowId.toList := by
  have inLead : ':' ∉ lead := by decide
  have inWord : ':' ∉ s.word.toList := by cases s <;> simp only [word] <;> decide
  have inNumber : ':' ∉ intChars s.number.toInt := not_mem_intChars (by decide) (by decide) _
  have inMark : ':' ≠ '_' := by decide
  unfold rowId bareChars
  rw [String.toList_ofList]
  simp only [List.mem_append, List.mem_cons, not_or]
  exact ⟨inLead, inWord, inMark, inNumber, s.not_mem_dateChars⟩

/-- What a row identifier gives: the selection it was written for, if its date can be read. -/
theorem parse?_rowId_eq (s : Selection) :
    parse? s.rowId = if s.HasPlainYear then some s else none := by
  split
  · next plain => exact parse?_rowId plain
  · next far => exact parse?_rowId_eq_none far

/-- With the lead, without it and behind any namespace, a row identifier gives the selection that
has no date or one of the years 0 to 9999, and nothing for any other selection. -/
theorem rowId_read_back (s : Selection) (space : String) :
    s.rowId = "booking_" ++ s.bareId
      ∧ ∀ id ∈ [s.rowId, s.bareId, logicalReplyId (space ++ ":" ++ s.rowId)],
        parse? id = if s.HasPlainYear then some s else none := by
  refine ⟨s.rowId_eq, fun id hid => ?_⟩
  have logical : logicalReplyId (space ++ ":" ++ s.rowId) = s.rowId :=
    logicalReplyId_namespaced s.not_mem_rowId space
  have same : parse? id = parse? s.rowId := by
    rcases List.mem_cons.1 hid with rfl | hid
    · rfl
    rcases List.mem_cons.1 hid with rfl | hid
    · exact s.parse?_bareId_eq_parse?_rowId
    · rw [List.mem_singleton.1 hid, logical]
  rw [same, s.parse?_rowId_eq]

end Selection

end Dialogue
