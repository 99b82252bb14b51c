import Dialogue.Calendar.Instant
import Dialogue.Text.Blank

/-!
# Reading dates and times

Numbers may have blanks in front of them. A year has at most four digits, or any number of digits
after a sign; months, days, hours, minutes and seconds have at most two.
-/

namespace Dialogue

namespace Calendar

open Text

/-- The number that digits write. -/
def digitsNumber (s : List Char) : Nat := s.foldl (fun n c => n * 10 + (c.toNat - 48)) 0

/-- Takes at least one and at most `most` digits. -/
def takeDigits? (most : Nat) (s : List Char) : Option (List Char × List Char) :=
  let digits := (s.take most).takeWhile Char.isDigit
  if digits.isEmpty then none else some (digits, s.drop digits.length)

/-- Takes a number of at most `most` digits, blanks in front of it allowed. -/
def takeNumber? (most : Nat) (s : List Char) : Option (Nat × List Char) :=
  (takeDigits? most (trimStartChars s)).map fun p => (digitsNumber p.1, p.2)

/-- Takes a year. -/
def takeYear? (s : List Char) : Option (Int × List Char) :=
  match trimStartChars s with
  | '-' :: r => (takeDigits? r.length r).map fun p => (-(digitsNumber p.1 : Int), p.2)
  | '+' :: r => (takeDigits? r.length r).map fun p => ((digitsNumber p.1 : Int), p.2)
  | r => (takeDigits? 4 r).map fun p => ((digitsNumber p.1 : Int), p.2)

/-- Takes a character, blanks in front of it allowed. -/
def takeMark? (mark : Char) (s : List Char) : Option (List Char) :=
  match trimStartChars s with
  | c :: r => if c = mark then some r else none
  | [] => none

/-- Reads a date without anything between year, month and day. -/
def compactDate? (s : List Char) : Option Date := do
  let (year, s) ← takeYear? s
  let (month, s) ← takeNumber? 2 s
  let (day, s) ← takeNumber? 2 s
  if s.isEmpty then Date.ofCivil? ⟨year, month, day⟩ else none

/-- Takes year, month and day with hyphens between them. -/
def takeDate? (s : List Char) : Option (Civil × List Char) := do
  let (year, s) ← takeYear? s
  let s ← takeMark? '-' s
  let (month, s) ← takeNumber? 2 s
  let s ← takeMark? '-' s
  let (day, s) ← takeNumber? 2 s
  return (⟨year, month, day⟩, s)

/-- Reads a date with hyphens. -/
def date? (text : String) : Option Date := do
  let (civil, s) ← takeDate? text.toList
  if (trimStartChars s).isEmpty then Date.ofCivil? civil else none

/-- Takes the fraction of a second, if there is one, in nanoseconds. -/
def takeFraction? (s : List Char) : Option (Nat × List Char) :=
  match s with
  | '.' :: r =>
    (takeDigits? 9 r).map fun p =>
      (digitsNumber p.1 * Nat.pow 10 (9 - p.1.length), p.2.dropWhile Char.isDigit)
  | _ => some (0, s)

/-- Takes seconds with their fraction, after a colon. -/
def takeSeconds? (s : List Char) : Option (Nat × Nat × List Char) := do
  let s ← takeMark? ':' s
  let (second, s) ← takeNumber? 2 s
  let (nano, s) ← takeFraction? s
  if second ≤ 60 then return (second, nano, s) else none

/-- Takes hours and minutes with a colon between them. -/
def takeHoursMinutes? (s : List Char) : Option (Nat × Nat × List Char) := do
  let (hour, s) ← takeNumber? 2 s
  let s ← takeMark? ':' s
  let (minute, s) ← takeNumber? 2 s
  if hour < 24 && minute < 60 then return (hour, minute, s) else none

/-- Reads a time of day; seconds may be left out. -/
def time? (text : String) : Option TimeOfDay := do
  let (hour, minute, s) ← takeHoursMinutes? text.toList
  let (second, nano, s) := (takeSeconds? s).getD (0, 0, s)
  if (trimStartChars s).isEmpty then TimeOfDay.ofClock? hour minute second nano else none

/-- Takes an offset from UTC, in seconds. -/
def takeOffset? (s : List Char) : Option (Int × List Char) :=
  match s with
  | [] => none
  | c :: r =>
    if c = 'Z' || c = 'z' then some (0, r)
    else if c = '+' || c = '-' || c = '\u2212' then
      match r with
      | a :: b :: r => do
        let hours := (← digit? a) * 10 + (← digit? b)
        match r.dropWhile fun c => c = ':' || isBlank c with
        | d :: e :: r =>
          let tens ← digit? d
          let minutes := tens * 10 + (← digit? e)
          if 5 < tens then none
          else
            let seconds : Int := hours * 3600 + minutes * 60
            return (if c = '+' then seconds else -seconds, r)
        | _ => none
      | _ => none
    else none

/-- Takes the zone of an instant: an offset or the letters UTC. -/
def takeZone? (s : List Char) : Option (Int × List Char) :=
  match s with
  | a :: b :: c :: r =>
    if a.toUpper = 'U' && b.toUpper = 'T' && c.toUpper = 'C' then some (0, r) else takeOffset? s
  | _ => takeOffset? s

/-- Reads an instant: a date, a `T` or a blank, a time and an offset. -/
def instant? (text : String) : Option Instant := do
  let (civil, s) ← takeDate? text.toList
  let date ← Date.ofCivil? civil
  match s with
  | c :: s =>
    if c = 'T' || c = 't' || c = ' ' then
      let (hour, minute, s) ← takeHoursMinutes? s
      let (second, nano, s) ← takeSeconds? s
      let time ← TimeOfDay.ofClock? hour minute second nano
      let (offset, s) ← takeZone? (trimStartChars s)
      if (trimStartChars s).isEmpty && offset.natAbs < 86400 then
        Instant.of? (date.day * 86400 + time.second - offset) time.nano
      else none
    else none
  | [] => none

end Calendar

end Dialogue
