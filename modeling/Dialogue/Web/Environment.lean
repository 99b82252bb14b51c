import Dialogue.Json.Binary64
import Dialogue.Text.Integer
import Dialogue.Text.Blank

/-!
# Values of the environment

A name of the environment is a path: letters of any case, with points or two underscores between
the levels. A value is a truth value, a whole number, a number or a text, whichever is the first
that it can be read as; a setting then takes what it needs from it.
-/

namespace Dialogue

/-- A value of the environment. -/
inductive EnvironmentValue where
  | flag (b : Bool)
  | whole (n : Int)
  | real (x : Binary64)
  | infinite (negative : Bool)
  | noNumber
  | text (s : String)
  deriving DecidableEq, Repr

namespace EnvironmentValue

/-- A number written as digits, a fraction and an exponent. -/
structure Decimal where
  digits : List Char
  fraction : List Char
  exponent : Int
  deriving Repr

/-- Reads an exponent behind its mark. -/
def exponent? (s : List Char) : Option Int :=
  let (negative, digits) := match s with
    | '-' :: r => (true, r)
    | '+' :: r => (false, r)
    | r => (false, r)
  if digits.isEmpty || !digits.all Char.isDigit then none
  else
    let n : Int := Nat.ofDigitChars 10 digits 0
    some (if negative then -n else n)

/-- Reads the exponent of a number, which may be missing. -/
def exponentPart? : List Char → Option Int
  | [] => some 0
  | c :: r => if c == 'e' || c == 'E' then exponent? r else none

/-- Reads a number without its sign. -/
def decimal? (s : List Char) : Option Decimal :=
  let digits := s.takeWhile Char.isDigit
  let (fraction, rest) := match s.dropWhile Char.isDigit with
    | '.' :: r => (r.takeWhile Char.isDigit, r.dropWhile Char.isDigit)
    | r => ([], r)
  if digits.isEmpty && fraction.isEmpty then none
  else (exponentPart? rest).map fun e => ⟨digits, fraction, e⟩

/-- The number nearest to a decimal; one beyond every number is infinite. -/
def ofDecimal (negative : Bool) (d : Decimal) : EnvironmentValue :=
  let significand := Nat.ofDigitChars 10 (d.digits ++ d.fraction) 0
  let place : Int := d.exponent - d.fraction.length
  let lead : Int := (Nat.toDigits 10 significand).length + place
  if significand == 0 || lead < -330 then .real (.zero negative)
  else if 310 < lead then .infinite negative
  else
    let ratio := if 0 ≤ place then (significand * Nat.pow 10 place.toNat, 1)
      else (significand, Nat.pow 10 (-place).toNat)
    match Binary64.ofRatio? negative ratio.1 ratio.2 with
    | some x => .real x
    | none => .infinite negative

/-- Reads a number that need not be whole. -/
def number? (s : List Char) : Option EnvironmentValue :=
  let (negative, size) := match s with
    | '-' :: r => (true, r)
    | '+' :: r => (false, r)
    | r => (false, r)
  match String.ofList (size.map Char.toLower) with
  | "inf" | "infinity" => some (.infinite negative)
  | "nan" => some .noNumber
  | _ => (decimal? size).map (ofDecimal negative)

/-- Reads a value. -/
def ofText (s : String) : EnvironmentValue :=
  match s.toLower with
  | "true" => .flag true
  | "false" => .flag false
  | _ => match Text.readInteger? .signed64 s with
    | some n => .whole n
    | none => (number? s.toList).getD (.text s)

/-- The text that a setting takes from a value. -/
def asText : EnvironmentValue → String
  | .flag b => if b then "true" else "false"
  | .whole n => Text.intText n
  | .real x => x.plainText
  | .infinite negative => if negative then "-inf" else "inf"
  | .noNumber => "NaN"
  | .text s => s

/-- The whole number of a range nearest to another. -/
def clamp (r : Text.Range) (n : Int) : Int := max r.least (min r.greatest n)

/-- The whole number of 64 bits that a value stands for; a number is rounded, and one beyond the
range stands for its end. -/
def asWhole? (r : Text.Range) : EnvironmentValue → Option Int
  | .flag b => some b.toInt
  | .whole n => if r.has n then some n else none
  | .real x => some (clamp r x.round)
  | .infinite negative => some (if negative then r.least else r.greatest)
  | .noNumber => some 0
  | .text s => match s.toLower with
    | "on" | "yes" => some 1
    | "off" | "no" => some 0
    | _ => none

/-- The whole number that a setting of a range takes from a value, read in a wide range first. -/
def asInteger? (wide narrow : Text.Range) (v : EnvironmentValue) : Option Int :=
  (v.asWhole? wide).filter narrow.has

end EnvironmentValue

/-- The paths of an environment and their values. -/
abbrev Environment := List (List String × EnvironmentValue)

namespace Environment

/-- Puts points in place of pairs of underscores. -/
def pointed : List Char → List Char
  | '_' :: '_' :: r => '.' :: pointed r
  | c :: r => c :: pointed r
  | [] => []

/-- The path of a name. -/
def pathOf (name : String) : List String :=
  (Text.fields (· == '.') (pointed name.toLower.toList)).map String.ofList

/-- The environment of names and texts; of two names with one path the later counts, and a name
with an empty level is left out. -/
def ofVariables (named : List (String × String)) : Environment :=
  (named.reverse.map fun p => (pathOf p.1, EnvironmentValue.ofText p.2)).filter fun p =>
    !p.1.contains ""

/-- Whether a path has levels below it. -/
def hasBelow (e : Environment) (path : List String) : Bool :=
  e.any fun p => path.isPrefixOf p.1 && p.1 != path

/-- The value of a path. -/
def value? (e : Environment) (path : List String) : Option EnvironmentValue := e.lookup path

/-- A setting: its standard where the path has no value, and nothing where what the path has
cannot be read. -/
def setting? (e : Environment) (path : List String) (standard : Option α)
    (read : EnvironmentValue → Option α) : Option α :=
  if e.hasBelow path then none
  else match e.value? path with
    | some v => read v
    | none => standard

end Environment

end Dialogue
