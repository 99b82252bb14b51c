/-!
# Sortable identifiers

A 128-bit number, the high 48 bits a time in milliseconds. It is written as 26 digits of base 32,
so the order of the texts is the order of the numbers. The digits leave out the letters I, L, O
and U; letters are read in either case. The first digit has two bits to spare, which are dropped.
-/

namespace Dialogue

/-- A 128-bit identifier. -/
structure Ulid where
  bits : BitVec 128
  deriving DecidableEq, Repr, Inhabited

namespace Ulid

/-- The 32 digits in the order of their values. -/
def alphabet : List Char := "0123456789ABCDEFGHJKMNPQRSTVWXYZ".toList

/-- The number of digits of a text. -/
def width : Nat := 26

/-- The digit of a value below 32. -/
def digit (n : Nat) : Char := alphabet.getD n '0'

/-- The value of a digit, in either letter case. -/
def digitValue? (c : Char) : Option Nat := alphabet.findIdx? (· == c.toUpper)

/-- The last `count` digits of a number, the most significant first. -/
def digitsOf : Nat → Nat → List Char
  | 0, _ => []
  | count + 1, n => digitsOf count (n / 32) ++ [digit (n % 32)]

/-- The 26 digits. -/
def chars (u : Ulid) : List Char := digitsOf width u.bits.toNat

/-- The 26 digits. -/
def text (u : Ulid) : String := String.ofList u.chars

/-- Why a text is no identifier. -/
inductive Fault where
  | length
  | character
  deriving DecidableEq, Repr

/-- What a reader of the error sees. -/
def Fault.message : Fault → String
  | .length => "invalid length"
  | .character => "invalid character"

/-- The number that digits write. -/
def value? (s : List Char) : Option Nat :=
  s.foldlM (fun n c => (digitValue? c).map fun d => n * 32 + d) 0

/-- Reads 26 digits. The length is looked at first, in bytes. -/
def parse (s : String) : Except Fault Ulid :=
  if s.utf8ByteSize ≠ width then .error .length
  else match value? s.toList with
    | some n => .ok ⟨BitVec.ofNat 128 n⟩
    | none => .error .character

/-- The identifier with the low 48 bits of a time and the low 80 bits of a number. -/
def ofParts (time random : Nat) : Ulid :=
  ⟨BitVec.ofNat 128 (time % (1 <<< 48) * (1 <<< 80) + random % (1 <<< 80))⟩

/-- The time in milliseconds. -/
def time (u : Ulid) : Nat := u.bits.toNat / (1 <<< 80)

end Ulid

end Dialogue
