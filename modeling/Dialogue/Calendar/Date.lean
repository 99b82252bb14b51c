import Dialogue.Text.Integer

/-!
# Dates

A date is the number of days since 1970-01-01, inside a calendar of the years -262143 to 262142.
Its year, month and day are those of the proleptic Gregorian calendar. Dates are ordered by day
number, and the next day is the next number.
-/

namespace Dialogue

/-- A day of the week. -/
inductive Weekday where
  | monday
  | tuesday
  | wednesday
  | thursday
  | friday
  | saturday
  | sunday
  deriving DecidableEq, Repr, Inhabited

namespace Weekday

/-- All days, Monday first. -/
def all : List Weekday := [.monday, .tuesday, .wednesday, .thursday, .friday, .saturday, .sunday]

/-- The number of days since Monday. -/
def index : Weekday → Nat
  | .monday => 0
  | .tuesday => 1
  | .wednesday => 2
  | .thursday => 3
  | .friday => 4
  | .saturday => 5
  | .sunday => 6

/-- The day with a number of days since Monday. -/
def ofIndex? (n : Nat) : Option Weekday := all[n]?

/-- The three-letter name. -/
def shortName : Weekday → String
  | .monday => "Mon"
  | .tuesday => "Tue"
  | .wednesday => "Wed"
  | .thursday => "Thu"
  | .friday => "Fri"
  | .saturday => "Sat"
  | .sunday => "Sun"

/-- The full name. -/
def longName : Weekday → String
  | .monday => "Monday"
  | .tuesday => "Tuesday"
  | .wednesday => "Wednesday"
  | .thursday => "Thursday"
  | .friday => "Friday"
  | .saturday => "Saturday"
  | .sunday => "Sunday"

/-- Reads a short or full name in any letter case. -/
def ofText? (s : String) : Option Weekday :=
  let lower := s.toLower
  all.find? fun d => d.shortName.toLower == lower || d.longName.toLower == lower

@[simp]
theorem ofIndex?_index (d : Weekday) : ofIndex? d.index = some d := by
  cases d <;> rfl

end Weekday

/-- Years, months and days of the Gregorian calendar. -/
structure Civil where
  year : Int
  month : Nat
  day : Nat
  deriving DecidableEq, Repr

namespace Civil

/-- Whether a year has 366 days. -/
def isLeap (year : Int) : Bool := year % 4 == 0 && (year % 100 != 0 || year % 400 == 0)

/-- The number of days of a month. -/
def daysIn (year : Int) (month : Nat) : Nat :=
  if month == 2 then if isLeap year then 29 else 28
  else if month == 4 || month == 6 || month == 9 || month == 11 then 30 else 31

/-- Whether there is such a day. -/
def isReal (c : Civil) : Bool :=
  1 ≤ c.month && c.month ≤ 12 && 1 ≤ c.day && c.day ≤ daysIn c.year c.month

/-- The number of days since 1970-01-01. Years are counted from March, in cycles of 400. -/
def dayNumber (c : Civil) : Int :=
  let y := if c.month ≤ 2 then c.year - 1 else c.year
  let era := y / 400
  let yearOfEra := y % 400
  let m : Int := if c.month ≤ 2 then c.month + 9 else c.month - 3
  let dayOfYear := (153 * m + 2) / 5 + c.day - 1
  era * 146097 + (yearOfEra * 365 + yearOfEra / 4 - yearOfEra / 100 + dayOfYear) - 719468

/-- The day with a number of days since 1970-01-01. -/
def ofDayNumber (n : Int) : Civil :=
  let z := n + 719468
  let era := z / 146097
  let dayOfEra := z % 146097
  let yearOfEra := (dayOfEra - dayOfEra / 1460 + dayOfEra / 36524 - dayOfEra / 146096) / 365
  let dayOfYear := dayOfEra - (365 * yearOfEra + yearOfEra / 4 - yearOfEra / 100)
  let m := (5 * dayOfYear + 2) / 153
  let day := dayOfYear - (153 * m + 2) / 5 + 1
  let month := if m < 10 then m + 3 else m - 9
  let year := yearOfEra + era * 400
  ⟨if month ≤ 2 then year + 1 else year, month.toNat, day.toNat⟩

end Civil

/-- The day number of the first date, -262143-01-01. -/
def firstDay : Int := -96465292

/-- The day number of the last date, 262142-12-31. -/
def lastDay : Int := 95026236

theorem firstDay_eq : firstDay = (Civil.mk (-262143) 1 1).dayNumber := by decide

theorem lastDay_eq : lastDay = (Civil.mk 262142 12 31).dayNumber := by decide

/-- A date of the calendar. -/
structure Date where
  day : Int
  first_le : firstDay ≤ day
  le_last : day ≤ lastDay
  deriving DecidableEq, Repr

namespace Date

instance : LT Date := ⟨fun a b => a.day < b.day⟩

instance : LE Date := ⟨fun a b => a.day ≤ b.day⟩

instance (a b : Date) : Decidable (a < b) := inferInstanceAs (Decidable (a.day < b.day))

instance (a b : Date) : Decidable (a ≤ b) := inferInstanceAs (Decidable (a.day ≤ b.day))

instance : Inhabited Date := ⟨⟨0, by decide, by decide⟩⟩

/-- The date with a day number, if the calendar has it. -/
def ofDay? (n : Int) : Option Date :=
  if h : firstDay ≤ n ∧ n ≤ lastDay then some ⟨n, h.1, h.2⟩ else none

/-- The year, month and day. -/
def civil (d : Date) : Civil := .ofDayNumber d.day

/-- The date of a year, month and day, if there is one. -/
def ofCivil? (c : Civil) : Option Date := if c.isReal then ofDay? c.dayNumber else none

/-- The date a number of days later, if the calendar has it. -/
def addDays? (d : Date) (n : Nat) : Option Date := ofDay? (d.day + n)

/-- The day of the week. -/
def weekday (d : Date) : Weekday := (Weekday.ofIndex? ((d.day + 3) % 7).toNat).getD .monday

/-- A year: four digits, or a sign and at least four digits outside the years 0 to 9999. -/
def yearChars (year : Int) : List Char :=
  if 0 ≤ year && year ≤ 9999 then Text.paddedChars 4 year.toNat
  else (if year < 0 then '-' else '+') :: Text.paddedChars 4 year.natAbs

/-- Year, month and day with hyphens. -/
def text (d : Date) : String :=
  let c := d.civil
  String.ofList (Date.yearChars c.year ++ '-' :: Text.paddedChars 2 c.month ++
    '-' :: Text.paddedChars 2 c.day)

/-- Year, month and day without anything between them. -/
def compactChars (d : Date) : List Char :=
  let c := d.civil
  Date.yearChars c.year ++ Text.paddedChars 2 c.month ++ Text.paddedChars 2 c.day

/-- The short names of the months. -/
def monthNames : List String :=
  ["Jan", "Feb", "Mar", "Apr", "May", "Jun", "Jul", "Aug", "Sep", "Oct", "Nov", "Dec"]

/-- Day of the week, day and month, as shown to participants. -/
def label (d : Date) : String :=
  let c := d.civil
  d.weekday.shortName ++ " " ++ Text.padded 2 c.day ++ " " ++ monthNames.getD (c.month - 1) ""

end Date

end Dialogue
