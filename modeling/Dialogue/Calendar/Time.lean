import Dialogue.Text.Integer

/-!
# Times of day

A time counts whole seconds from midnight and nanoseconds within the second. A leap second is the
second before it with more than a thousand million nanoseconds.
-/

namespace Dialogue

/-- A time of day. -/
structure TimeOfDay where
  second : Nat
  nano : Nat
  second_lt : second < 86400
  nano_lt : nano < 2000000000
  deriving DecidableEq, Repr

namespace TimeOfDay

theorem zero_lt_nanos : 0 < 2000000000 := by decide

instance : Inhabited TimeOfDay := ⟨⟨0, 0, by decide, zero_lt_nanos⟩⟩

/-- Seconds and nanoseconds as one number, in the order of time. -/
def rank (t : TimeOfDay) : Nat := t.second * 2000000000 + t.nano

instance : LT TimeOfDay := ⟨fun a b => a.rank < b.rank⟩

instance : LE TimeOfDay := ⟨fun a b => a.rank ≤ b.rank⟩

instance (a b : TimeOfDay) : Decidable (a < b) := inferInstanceAs (Decidable (a.rank < b.rank))

instance (a b : TimeOfDay) : Decidable (a ≤ b) := inferInstanceAs (Decidable (a.rank ≤ b.rank))

/-- The time with a number of seconds from midnight. -/
def ofSecond (n : Nat) : TimeOfDay := ⟨n % 86400, 0, Nat.mod_lt _ (by decide), zero_lt_nanos⟩

/-- The time of an hour, minute, second and nanosecond; second 60 is a leap second. -/
def ofClock? (hour minute second nano : Nat) : Option TimeOfDay :=
  if h : hour < 24 ∧ minute < 60 ∧ second ≤ 60 ∧ nano < 1000000000 then
    if second = 60 then
      some ⟨hour * 3600 + minute * 60 + 59, nano + 1000000000, by omega, by omega⟩
    else some ⟨hour * 3600 + minute * 60 + min second 59, nano, by omega, by omega⟩
  else none

/-- The fraction of a second with three, six or nine digits, as few as show all of it. -/
def fractionText (nano : Nat) : String :=
  if nano = 0 then ""
  else if nano % 1000000 = 0 then "." ++ Text.padded 3 (nano / 1000000)
  else if nano % 1000 = 0 then "." ++ Text.padded 6 (nano / 1000)
  else "." ++ Text.padded 9 nano

/-- Hours and minutes. -/
def label (t : TimeOfDay) : String :=
  Text.padded 2 (t.second / 3600) ++ ":" ++ Text.padded 2 (t.second / 60 % 60)

/-- Hours, minutes and seconds, with a fraction where there is one. -/
def text (t : TimeOfDay) : String :=
  t.label ++ ":" ++ Text.padded 2 (t.second % 60 + t.nano / 1000000000) ++
    fractionText (t.nano % 1000000000)

end TimeOfDay

end Dialogue
