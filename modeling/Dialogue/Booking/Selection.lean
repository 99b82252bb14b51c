import Dialogue.Calendar.Reader
import Dialogue.Ident.Typed

/-!
# Selections

Every row that a booking offers has an identifier that spells out what it selects: what kind of
thing, its number and, for a slot, the date as eight digits. A reply with that identifier is read
back without looking at the row. The lead `booking_` may be missing.
-/

namespace Dialogue

open Text

/-- What a participant selects by a row. -/
inductive Selection where
  | department (id : DepartmentId)
  | staff (id : StaffId)
  | slot (id : SlotId) (date : Date)
  | reschedule (id : BookingId)
  | cancel (id : BookingId)
  | newSlot (id : SlotId) (date : Date)
  deriving DecidableEq, Repr

namespace Selection

/-- What stands in front of every row identifier. -/
def lead : List Char := "booking_".toList

/-- The word for what is selected. -/
def word : Selection → String
  | .department _ => "dept"
  | .staff _ => "staff"
  | .slot _ _ => "slot"
  | .reschedule _ => "resched"
  | .cancel _ => "cancel"
  | .newSlot _ _ => "newslot"

/-- The number of what is selected. -/
def number : Selection → Int64
  | .department id => id.number
  | .staff id => id.number
  | .slot id _ => id.number
  | .reschedule id => id.number
  | .cancel id => id.number
  | .newSlot id _ => id.number

/-- The date of a slot. -/
def date? : Selection → Option Date
  | .slot _ date | .newSlot _ date => some date
  | _ => none

/-- The characters behind the number. -/
def dateChars (s : Selection) : List Char :=
  match s.date? with
  | some date => '_' :: date.compactChars
  | none => []

/-- The name of the kind of selection. -/
def kind : Selection → String
  | .department _ => "department"
  | .staff _ => "staff"
  | .slot _ _ => "slot"
  | .reschedule _ => "reschedule"
  | .cancel _ => "cancel"
  | .newSlot _ _ => "newslot"

/-- The selection of a kind, a number and a date. -/
def ofParts? (kind : String) (n : Int64) (date : Option Date) : Option Selection :=
  match kind with
  | "department" => some (.department ⟨n⟩)
  | "staff" => some (.staff ⟨n⟩)
  | "slot" => date.map (.slot ⟨n⟩)
  | "reschedule" => some (.reschedule ⟨n⟩)
  | "cancel" => some (.cancel ⟨n⟩)
  | "newslot" => date.map (.newSlot ⟨n⟩)
  | _ => none

/-- The row identifier without its lead. -/
def bareChars (s : Selection) : List Char :=
  s.word.toList ++ '_' :: (intChars s.number.toInt ++ s.dateChars)

/-- The row identifier. -/
def rowId (s : Selection) : String := String.ofList (lead ++ s.bareChars)

/-- Reads a number. -/
def number? (s : List Char) : Option Int64 :=
  (readIntegerChars .signed64 s).toOption.map Int64.ofInt

/-- Reads the number of a slot and a date. -/
def slotAndDate? (s : List Char) : Option (SlotId × Date) := do
  let (digits, day) ← splitAt? '_' s
  return (⟨← number? digits⟩, ← Calendar.compactDate? day)

/-- Reads what follows the word. -/
def ofWord? (word : String) (rest : List Char) : Option Selection :=
  match word with
  | "dept" => (number? rest).map fun n => .department ⟨n⟩
  | "staff" => (number? rest).map fun n => .staff ⟨n⟩
  | "resched" => (number? rest).map fun n => .reschedule ⟨n⟩
  | "cancel" => (number? rest).map fun n => .cancel ⟨n⟩
  | "slot" => (slotAndDate? rest).map fun p => .slot p.1 p.2
  | "newslot" => (slotAndDate? rest).map fun p => .newSlot p.1 p.2
  | _ => none

/-- Reads the characters of a row identifier. -/
def parseChars? (s : List Char) : Option Selection := do
  let (word, rest) ← splitAt? '_' ((afterLead? lead s).getD s)
  ofWord? (String.ofList word) rest

/-- Reads a row identifier. -/
def parse? (s : String) : Option Selection := parseChars? s.toList

def toJson (s : Selection) : Json :=
  .object ([("kind", .str s.kind), ("id", .ofInt64 s.number), ("row_id", .str s.rowId)] ++
    Json.member? "date" (fun d => .str d.text) s.date?)

end Selection

end Dialogue
