import Dialogue.Calendar.Date
import Dialogue.Calendar.Time

/-!
# Instants and local clocks

An instant is a number of seconds since 1970-01-01 00:00 UTC whose UTC date is in the calendar. A
local clock shifts instants by a fixed offset of less than a day. Near the ends of the calendar
the local date of an instant may fall outside of it.
-/

namespace Dialogue

/-- An instant of UTC. -/
structure Instant where
  second : Int
  nano : Nat
  first_le : firstDay * 86400 ≤ second
  lt_end : second < (lastDay + 1) * 86400
  nano_lt : nano < 2000000000
  deriving Repr

namespace Instant

instance : DecidableEq Instant
  | ⟨a, b, _, _, _⟩, ⟨c, d, _, _, _⟩ =>
    if h : a = c ∧ b = d then isTrue (by obtain ⟨rfl, rfl⟩ := h; rfl)
    else isFalse fun e => h ⟨congrArg second e, congrArg nano e⟩

instance : Inhabited Instant := ⟨⟨0, 0, by decide, by decide, TimeOfDay.zero_lt_nanos⟩⟩

/-- The instant with a number of seconds and nanoseconds, if its date is in the calendar. -/
def of? (second : Int) (nano : Nat) : Option Instant :=
  if h : firstDay * 86400 ≤ second ∧ second < (lastDay + 1) * 86400 ∧ nano < 2000000000 then
    some ⟨second, nano, h.1, h.2.1, h.2.2⟩
  else none

/-- The instant with a number of seconds since 1970, if its date is in the calendar. -/
def ofSeconds? (second : Int) : Option Instant := of? second 0

/-- The date in UTC. -/
def date (i : Instant) : Date :=
  ⟨i.second / 86400, by have := i.first_le; omega, by have := i.lt_end; omega⟩

/-- The time of day in UTC. -/
def time (i : Instant) : TimeOfDay :=
  ⟨(i.second % 86400).toNat, i.nano, by omega, i.nano_lt⟩

/-- Date and time with a `T` between them. -/
def localText (i : Instant) : String := i.date.text ++ "T" ++ i.time.text

/-- Date and time with the offset written as `Z`. -/
def text (i : Instant) : String := i.localText ++ "Z"

/-- Date and time with the offset written as digits. -/
def offsetText (i : Instant) : String := i.localText ++ "+00:00"

end Instant

/-- A clock that runs a fixed number of seconds east of UTC. -/
structure LocalClock where
  offset : Int
  offset_gt : -86400 < offset
  offset_lt : offset < 86400
  deriving DecidableEq, Repr

namespace LocalClock

/-- The clock with an offset in minutes, if that is less than a day. -/
def ofMinutes? (minutes : Int) : Option LocalClock :=
  if h : -86400 < minutes * 60 ∧ minutes * 60 < 86400 then some ⟨minutes * 60, h.1, h.2⟩ else none

/-- The local date of an instant, if the calendar has it. -/
def date? (c : LocalClock) (i : Instant) : Option Date :=
  Date.ofDay? ((i.second + c.offset) / 86400)

/-- The local time of an instant. -/
def time (c : LocalClock) (i : Instant) : TimeOfDay :=
  ⟨((i.second + c.offset) % 86400).toNat, i.nano, by omega, i.nano_lt⟩

end LocalClock

end Dialogue
