import Dialogue.Text.Utf8

/-!
# Percent encoding

A byte is written as a percent sign and two upper-case hexadecimal digits. Which characters are
written so depends on the part of the address; control characters and all characters outside ASCII
always are.
-/

namespace Dialogue

namespace Percent

/-- The upper-case hexadecimal digit of a number below 16. -/
def digit (n : Nat) : Char := if n < 10 then Char.ofNat (48 + n) else Char.ofNat (55 + n)

/-- A percent sign and two digits. -/
def encodeByte (b : UInt8) : List Char := ['%', digit (b.toNat / 16), digit (b.toNat % 16)]

/-- All bytes of a character. -/
def encodeChar (c : Char) : List Char := (String.utf8EncodeChar c).flatMap encodeByte

/-- Control characters and characters outside ASCII. -/
def isControl (c : Char) : Bool := c.toNat < 0x20 || 0x7F ≤ c.toNat

/-- What is encoded in a fragment. -/
def inFragment (c : Char) : Bool :=
  isControl c || [' ', '"', '<', '>', '`'].contains c

/-- What is encoded in a path. -/
def inPath (c : Char) : Bool := inFragment c || ['#', '?', '{', '}'].contains c

/-- What is encoded in a user name or password. -/
def inUserinfo (c : Char) : Bool :=
  inPath c || ['/', ':', ';', '=', '@', '[', '\\', ']', '^', '|'].contains c

/-- What is encoded in a query. -/
def inQuery (c : Char) : Bool := isControl c || [' ', '"', '#', '<', '>'].contains c

/-- What is encoded in the query of a web address. -/
def inSpecialQuery (c : Char) : Bool := inQuery c || c == '\''

/-- Encodes the characters of a set. -/
def encode (set : Char → Bool) (s : List Char) : List Char :=
  s.flatMap fun c => if set c then encodeChar c else [c]

/-- The value of a hexadecimal digit of either case. -/
def digitValue? (b : UInt8) : Option Nat :=
  if 48 ≤ b && b ≤ 57 then some (b.toNat - 48)
  else if 97 ≤ b && b ≤ 102 then some (b.toNat - 87)
  else if 65 ≤ b && b ≤ 70 then some (b.toNat - 55)
  else none

/-- Decodes percent signs with two digits; any other percent sign stays. -/
def decode : List UInt8 → List UInt8
  | [] => []
  | 37 :: a :: b :: r =>
    match digitValue? a, digitValue? b with
    | some x, some y => UInt8.ofNat (x * 16 + y) :: decode r
    | _, _ => 37 :: decode (a :: b :: r)
  | a :: r => a :: decode r

end Percent

end Dialogue
