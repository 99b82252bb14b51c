/-!
# Whole numbers in text

Reading a decimal whole number of a bounded range: an optional sign, then ASCII digits, leading
zeros allowed and blanks not. Digits are taken from the left, and the first one that is no digit
or leaves the range decides the error. Writing pads with zeros.
-/

namespace Dialogue

namespace Text

/-- Why a text is not a whole number of the wanted range. -/
inductive IntegerError where
  | empty
  | invalidDigit
  | tooLarge
  | tooSmall
  deriving DecidableEq, Repr

/-- What a reader of the error sees. -/
def IntegerError.message : IntegerError → String
  | .empty => "cannot parse integer from empty string"
  | .invalidDigit => "invalid digit found in string"
  | .tooLarge => "number too large to fit in target type"
  | .tooSmall => "number too small to fit in target type"

/-- A range of whole numbers. -/
structure Range where
  least : Int
  greatest : Int
  deriving DecidableEq, Repr

namespace Range

/-- Signed 64-bit numbers. -/
def signed64 : Range := ⟨-9223372036854775808, 9223372036854775807⟩

/-- Unsigned 64-bit numbers. -/
def unsigned64 : Range := ⟨0, 18446744073709551615⟩

/-- Unsigned 32-bit numbers. -/
def unsigned32 : Range := ⟨0, 4294967295⟩

/-- Signed 32-bit numbers. -/
def signed32 : Range := ⟨-2147483648, 2147483647⟩

/-- Signed 16-bit numbers. -/
def signed16 : Range := ⟨-32768, 32767⟩

/-- Unsigned 16-bit numbers. -/
def unsigned16 : Range := ⟨0, 65535⟩

/-- Whether a number is in the range. -/
def has (r : Range) (n : Int) : Bool := r.least ≤ n && n ≤ r.greatest

end Range

/-- The value of an ASCII digit. -/
def digit? (c : Char) : Option Nat := if c.isDigit then some (c.toNat - '0'.toNat) else none

/-- Appends digits to a number that is negative or not, as long as it stays in the range. -/
def readDigits (r : Range) (negative : Bool) : Int → List Char → Except IntegerError Int
  | n, [] => .ok n
  | n, c :: cs =>
    match digit? c with
    | none => .error .invalidDigit
    | some d =>
      if negative then
        if n * 10 - d < r.least then .error .tooSmall else readDigits r negative (n * 10 - d) cs
      else
        if r.greatest < n * 10 + d then .error .tooLarge else readDigits r negative (n * 10 + d) cs

/-- Reads a number of the range. A minus sign is a sign only where negative numbers are. -/
def readIntegerChars (r : Range) : List Char → Except IntegerError Int
  | [] => .error .empty
  | ['+'] | ['-'] => .error .invalidDigit
  | '+' :: cs => readDigits r false 0 cs
  | '-' :: cs => if r.least < 0 then readDigits r true 0 cs else .error .invalidDigit
  | cs => readDigits r false 0 cs

/-- Reads a number of the range from a text. -/
def readInteger (r : Range) (s : String) : Except IntegerError Int := readIntegerChars r s.toList

/-- Reads a number of the range, or nothing. -/
def readInteger? (r : Range) (s : String) : Option Int := (readInteger r s).toOption

/-- The decimal digits of a number. -/
def natChars (n : Nat) : List Char := Nat.toDigits 10 n

/-- The decimal digits of a number with a minus sign where it is negative. -/
def intChars : Int → List Char
  | .ofNat n => natChars n
  | .negSucc n => '-' :: natChars (n + 1)

/-- At least `width` digits, filled with zeros in front. -/
def paddedChars (width n : Nat) : List Char :=
  List.replicate (width - (natChars n).length) '0' ++ natChars n

/-- At least `width` digits, filled with zeros in front. -/
def padded (width n : Nat) : String := String.ofList (paddedChars width n)

/-- The decimal text of a number. -/
def intText (n : Int) : String := String.ofList (intChars n)

end Text

end Dialogue
