import Dialogue.Booking.Selection
import Dialogue.Proofs.Calendar.Compact

/-!
# Row identifiers are read back

A row identifier gives back the selection it was written for, as long as its date has a year of
four digits (`Selection.parse?_rowId`), and no two selections have the same one, whatever their
dates (`Selection.rowId_injective`). With any other year the date is not read, and then neither is
the selection (`Selection.parse?_rowId_eq_none`).
-/

namespace Dialogue

open Text

namespace Selection

/-- The date, if there is one, has a year of four digits. -/
def HasPlainYear (s : Selection) : Prop := ∀ date, s.date? = some date → date.HasPlainYear

instance (s : Selection) : Decidable s.HasPlainYear :=
  match h : s.date? with
  | none => .isTrue fun _ hd => nomatch h.symm.trans hd
  | some date => decidable_of_iff date.HasPlainYear
      ⟨fun plain _ hd => Option.some.inj (h.symm.trans hd) ▸ plain, fun plain => plain date h⟩

/-- The row identifier without its lead. -/
def bareId (s : Selection) : String := String.ofList s.bareChars

theorem rowId_eq (s : Selection) : s.rowId = "booking_" ++ s.bareId := by
  unfold rowId bareId lead
  rw [String.ofList_append, String.ofList_toList]

theorem number?_intChars (n : Int64) : number? (intChars n.toInt) = some n := by
  have has : Range.signed64.has n.toInt = true :=
    Range.has_iff.2 ⟨n.le_toInt, Int.le_sub_one_of_lt n.toInt_lt⟩
  unfold number?
  rw [readIntegerChars_intChars (by decide) has]
  show some (Int64.ofInt n.toInt) = some n
  rw [Int64.ofInt_toInt]

theorem intChars_injective {m n : Int64} (h : intChars m.toInt = intChars n.toInt) : m = n := by
  have back := number?_intChars m
  rw [h, number?_intChars n] at back
  exact (Option.some.inj back).symm

theorem not_mem_word (s : Selection) : '_' ∉ s.word.toList := by
  cases s <;> simp only [word] <;> decide

theorem splitAt?_intChars (n : Int64) (r : List Char) :
    splitAt? '_' (intChars n.toInt ++ '_' :: r) = some (intChars n.toInt, r) :=
  splitAt?_append (not_mem_intChars (by decide) (by decide) _) r

theorem slotAndDate?_chars {id : SlotId} {date : Date} (h : date.HasPlainYear) :
    slotAndDate? (intChars id.number.toInt ++ '_' :: date.compactChars) = some (id, date) := by
  unfold slotAndDate?
  rw [splitAt?_intChars]
  simp [number?_intChars, Calendar.compactDate?_compactChars h]

theorem slotAndDate?_chars_eq_none {id : SlotId} {date : Date} (h : ¬ date.HasPlainYear) :
    slotAndDate? (intChars id.number.toInt ++ '_' :: date.compactChars) = none := by
  unfold slotAndDate?
  rw [splitAt?_intChars]
  simp [number?_intChars, Calendar.compactDate?_compactChars_eq_none h]

theorem splitAt?_bareChars (s : Selection) :
    splitAt? '_' s.bareChars = some (s.word.toList, intChars s.number.toInt ++ s.dateChars) :=
  splitAt?_append s.not_mem_word _

/-- No word starts like the lead. -/
theorem head?_bareChars_ne (s : Selection) : s.bareChars.head? ≠ some 'b' := by
  unfold bareChars
  rw [List.head?_append, List.head?_cons]
  cases s <;> simp only [word] <;> decide

theorem afterLead?_bareChars (s : Selection) : afterLead? lead s.bareChars = none := by
  have start : lead = 'b' :: "ooking_".toList := by decide
  rw [start]
  cases h : s.bareChars with
  | nil => rfl
  | cons c r =>
    have other : 'b' ≠ c := by
      rintro rfl
      exact s.head?_bareChars_ne (congrArg List.head? h)
    exact if_neg other

theorem parse?_bareId_eq_parse?_rowId (s : Selection) : parse? s.bareId = parse? s.rowId := by
  unfold parse? rowId bareId parseChars?
  rw [String.toList_ofList, String.toList_ofList, afterLead?_append, afterLead?_bareChars,
    Option.getD_some, Option.getD_none]

/-- The word says how the rest is read. -/
theorem parse?_rowId_eq_ofWord? (s : Selection) :
    parse? s.rowId = ofWord? s.word (intChars s.number.toInt ++ s.dateChars) := by
  unfold parse? rowId parseChars?
  rw [String.toList_ofList, afterLead?_append, Option.getD_some, splitAt?_bareChars]
  show ofWord? (String.ofList s.word.toList) _ = _
  rw [String.ofList_toList]

/-- A row identifier is read back. -/
theorem parse?_rowId {s : Selection} (h : s.HasPlainYear) : parse? s.rowId = some s := by
  rw [parse?_rowId_eq_ofWord?]
  cases s with
  | department id | staff id | reschedule id | cancel id =>
    simp [ofWord?, word, dateChars, date?, number, number?_intChars]
  | slot id date | newSlot id date =>
    have plain := h date rfl
    simp [ofWord?, word, dateChars, date?, number, slotAndDate?_chars plain]

/-- A date of another year is in the way. -/
theorem parse?_rowId_eq_none {s : Selection} (h : ¬ s.HasPlainYear) : parse? s.rowId = none := by
  rw [parse?_rowId_eq_ofWord?]
  cases s with
  | department id | staff id | reschedule id | cancel id => exact absurd (fun _ hd => nomatch hd) h
  | slot id date | newSlot id date =>
    have far : ¬ date.HasPlainYear := fun plain => h fun _ hd => Option.some.inj hd ▸ plain
    simp [ofWord?, word, dateChars, date?, number, slotAndDate?_chars_eq_none far]

/-- Kind, number and date are all there is to a selection. -/
theorem ofParts?_kind (s : Selection) : ofParts? s.kind s.number s.date? = some s := by
  cases s <;> rfl

theorem kind_eq_of_word_eq {s s' : Selection} (h : s.word = s'.word) : s.kind = s'.kind := by
  cases s <;> cases s' <;> first | rfl | exact absurd h (by simp [word])

/-- Two selections with the same characters behind the word have the same number and date. -/
theorem number_and_date {s s' : Selection}
    (h : intChars s.number.toInt ++ s.dateChars = intChars s'.number.toInt ++ s'.dateChars) :
    s.number = s'.number ∧ s.date? = s'.date? := by
  have mark (n : Int64) : '_' ∉ intChars n.toInt := not_mem_intChars (by decide) (by decide) _
  unfold dateChars at h
  cases hd : s.date? with
  | none =>
    cases hd' : s'.date? with
    | none =>
      simp only [hd, hd', List.append_nil] at h
      exact ⟨intChars_injective h, rfl⟩
    | some e =>
      simp only [hd, hd', List.append_nil] at h
      exact absurd (h ▸ by simp) (mark s.number)
  | some d =>
    cases hd' : s'.date? with
    | none =>
      simp only [hd, hd', List.append_nil] at h
      exact absurd (h ▸ by simp) (mark s'.number)
    | some e =>
      simp only [hd, hd'] at h
      have split := congrArg (splitAt? '_') h
      rw [splitAt?_intChars, splitAt?_intChars] at split
      obtain ⟨hn, hdate⟩ := Prod.mk.inj (Option.some.inj split)
      exact ⟨intChars_injective hn, congrArg some (Date.compactChars_injective hdate)⟩

/-- No two selections have the same row identifier. -/
theorem rowId_injective {s s' : Selection} (h : s.rowId = s'.rowId) : s = s' := by
  have chars := congrArg String.toList h
  unfold rowId at chars
  rw [String.toList_ofList, String.toList_ofList] at chars
  have bare := congrArg (splitAt? '_') (List.append_cancel_left chars)
  rw [splitAt?_bareChars, splitAt?_bareChars] at bare
  obtain ⟨hword, hrest⟩ := Prod.mk.inj (Option.some.inj bare)
  obtain ⟨hnumber, hdate⟩ := number_and_date hrest
  have parts := ofParts?_kind s
  rw [kind_eq_of_word_eq (String.toList_inj.1 hword), hnumber, hdate, ofParts?_kind s'] at parts
  exact (Option.some.inj parts).symm

end Selection

end Dialogue
