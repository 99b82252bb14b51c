import Dialogue.Json.Basic
import Dialogue.Text.Integer

/-!
# Reading values into types

A record is written as an object, its fields under their names, or as an array, its fields in
order. Names that a record does not know are passed over in an object; items beyond its fields are
refused in an array, and so is a field that stands under two of its names at once. No value is
converted: a number is not read from a string, nor a whole number from a fraction.
-/

namespace Dialogue

namespace Json

/-- A truth value. -/
def bool? : Json → Option Bool
  | .bool b => some b
  | _ => none

/-- A whole number of a range. -/
def integer? (r : Text.Range) : Json → Option Int
  | .int n => if r.has n then some n else none
  | _ => none

/-- A signed 64-bit number. -/
def int64? (j : Json) : Option Int64 := (j.integer? .signed64).map Int64.ofInt

/-- An unsigned 64-bit number. -/
def uint64? (j : Json) : Option UInt64 := (j.integer? .unsigned64).map fun n => .ofNat n.toNat

/-- An unsigned 32-bit number. -/
def uint32? (j : Json) : Option UInt32 := (j.integer? .unsigned32).map fun n => .ofNat n.toNat

/-- A floating point number; a whole number is rounded to one. -/
def number? : Json → Option Binary64
  | .int n => some (.ofInt n)
  | .float x => some x
  | _ => none

/-- A list of values of one kind. -/
def list? (f : Json → Option α) : Json → Option (List α)
  | .arr items => items.mapM f
  | _ => none

/-- A value that null leaves out. -/
def nullable? (f : Json → Option α) : Json → Option (Option α)
  | .null => some none
  | j => (f j).map some

/-- A name of a table: the bare name, or an object with null under that name alone. -/
def choice? (table : List (String × α)) : Json → Option α
  | .str s => table.lookup s
  | .obj [(s, .null)] => table.lookup s
  | _ => none

/-- Splits off the tag of a tagged value: the member of that name, or the first item. -/
def splitTag? (tag : String) : Json → Option (String × Json)
  | .obj m => match Members.get? tag m with
    | some (.str s) => some (s, .obj (Members.erase tag m))
    | _ => none
  | .arr (.str s :: r) => some (s, .arr r)
  | _ => none

/-- What may stand beside the tag of an alternative without fields. -/
def isFieldless : Json → Bool
  | .obj _ => true
  | .arr items => items.isEmpty
  | _ => false

end Json

/-- Where the fields of a record are taken from. -/
inductive Fields where
  | named (members : Members)
  | listed (items : List Json)
  deriving DecidableEq, Repr

/-- Takes the fields of a record one after another. -/
abbrev FieldReader (α : Type) := StateT Fields Option α

namespace FieldReader

/-- The next field, which goes by any of `names`. -/
def take (names : List String) : FieldReader (Option Json) := fun fields =>
  match fields with
  | .named m => match names.filterMap (Members.get? · m) with
    | [] => some (none, fields)
    | [v] => some (some v, fields)
    | _ => none
  | .listed [] => some (none, fields)
  | .listed (v :: r) => some (some v, .listed r)

/-- A field that must be there. -/
def required (names : List String) (f : Json → Option α) : FieldReader α := fun fields =>
  match take names fields with
  | some (some v, rest) => (f v).map fun a => (a, rest)
  | _ => none

/-- A field that may be left out. -/
def withDefault (names : List String) (default : α) (f : Json → Option α) : FieldReader α :=
  fun fields =>
    match take names fields with
    | some (some v, rest) => (f v).map fun a => (a, rest)
    | some (none, rest) => some (default, rest)
    | none => none

/-- A field that may be left out or null. -/
def optional (names : List String) (f : Json → Option α) : FieldReader (Option α) :=
  withDefault names none (Json.nullable? f)

end FieldReader

namespace Json

/-- Reads a record. -/
def record? (r : FieldReader α) : Json → Option α
  | .obj m => (r (.named m)).map (·.1)
  | .arr items => match r (.listed items) with
    | some (a, .listed []) => some a
    | _ => none
  | _ => none

/-- Members that are left out where there is no value. -/
def member? (key : String) (f : α → Json) : Option α → List (String × Json)
  | some a => [(key, f a)]
  | none => []

/-- A whole number as a value. -/
def ofInt64 (n : Int64) : Json := .int n.toInt

/-- A whole number as a value. -/
def ofUInt64 (n : UInt64) : Json := .int n.toNat

/-- A whole number as a value. -/
def ofUInt32 (n : UInt32) : Json := .int n.toNat

end Json

end Dialogue
