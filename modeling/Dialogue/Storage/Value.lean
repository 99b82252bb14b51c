import Dialogue.Workflow

/-!
# Values of a database

A column of a row, and a parameter of a statement, is null or a value of one type. Times and
instants are kept to the microsecond. An instant counts from the start of the year 2000, and what
is finer than a microsecond is cut off toward it.
-/

namespace Dialogue

namespace TimeOfDay

/-- The time of a number of microseconds from midnight; after a day it begins again. -/
def ofMicroseconds (n : Nat) : TimeOfDay :=
  ⟨n / 1000000 % 86400, n % 1000000 * 1000, by omega, by omega⟩

/-- The time to the microsecond; a leap second runs into the second after it. -/
def toMicrosecond (t : TimeOfDay) : TimeOfDay :=
  ofMicroseconds (t.second * 1000000 + t.nano / 1000)

end TimeOfDay

namespace Instant

/-- The second from which a database counts. -/
def millennium : Int := 946684800

/-- The instant to the microsecond; a leap second runs into the second after it. -/
def toMicrosecond (i : Instant) : Instant :=
  let micros := ((i.second - millennium) * 1000000000 + i.nano).tdiv 1000
  (of? (millennium + micros / 1000000) ((micros % 1000000).toNat * 1000)).getD i

end Instant

/-- A value of a column or a parameter. -/
inductive SqlValue where
  | null
  | boolean (b : Bool)
  | smallint (n : Int16)
  | integer (n : Int32)
  | bigint (n : Int64)
  | text (s : String)
  | document (j : Json)
  | date (d : Date)
  | time (t : TimeOfDay)
  | timestamp (i : Instant)
  deriving DecidableEq, Repr

namespace SqlValue

/-- An optional value; null stands for none. -/
def ofOption (f : α → SqlValue) : Option α → SqlValue
  | some a => f a
  | none => .null

def toJson : SqlValue → Json
  | .null => .null
  | .boolean b => .bool b
  | .smallint n => .int n.toInt
  | .integer n => .int n.toInt
  | .bigint n => .ofInt64 n
  | .text s => .str s
  | .document j => j
  | .date d => d.toJson
  | .time t => .str t.text
  | .timestamp i => i.toJson

end SqlValue

end Dialogue
