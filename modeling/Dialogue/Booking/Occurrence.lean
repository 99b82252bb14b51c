import Dialogue.Booking.Basic

/-!
# Occurrences of slots

A weekly slot occurs on every date of its weekday. The upcoming occurrences are those on the dates
from today on that have not started yet, soonest first.
-/

namespace Dialogue

/-- A slot on a date. -/
structure Occurrence where
  slot : TimeSlot
  date : Date
  deriving DecidableEq, Repr

namespace Occurrence

/-- The number of rows that a list can show. -/
def maxRows : Nat := 10

/-- The date and the time as a row shows them. -/
def label (o : Occurrence) : String := o.date.label ++ " " ++ o.slot.startTime.label

def toJson (o : Occurrence) : Json :=
  .object [("slot", .ofInt64 o.slot.id.number), ("date", o.date.toJson), ("label", .str o.label),
    ("date_label", .str o.date.label), ("time_label", .str o.slot.startTime.label)]

/-- Whether an occurrence stands before another or beside it: by date, then time, then slot. -/
def precedes (a b : Occurrence) : Bool :=
  a.date < b.date || (a.date == b.date &&
    (a.slot.startTime < b.slot.startTime || (a.slot.startTime == b.slot.startTime &&
      a.slot.id.number ≤ b.slot.id.number)))

/-- The dates from a date on, as many as the calendar has of a number of days. -/
def datesFrom (date : Date) : Nat → List Date
  | 0 => []
  | n + 1 => date :: match date.addDays? 1 with
    | some next => datesFrom next n
    | none => []

/-- The occurrences on a date that have not started. -/
def onDate (slots : List TimeSlot) (today : Date) (now : TimeOfDay) (date : Date) :
    List Occurrence :=
  (slots.filter fun s =>
    s.isActive && s.occursOn date && !(date == today && s.startTime ≤ now)).map fun s => ⟨s, date⟩

/-- The occurrences on a number of days from today on. -/
def upcoming (slots : List TimeSlot) (today : Date) (now : TimeOfDay) (daysAhead : UInt32) :
    List Occurrence :=
  ((datesFrom today daysAhead.toNat).flatMap (onDate slots today now)).mergeSort precedes

end Occurrence

end Dialogue
