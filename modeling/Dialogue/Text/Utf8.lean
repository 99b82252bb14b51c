/-!
# Text as bytes

Characters as UTF-8 bytes and back. A reader of bytes either refuses what is not UTF-8 or puts a
replacement character for each stretch of bytes that begins a character and does not end it.
-/

namespace Dialogue

namespace Utf8

/-- The bytes of a text. -/
def encode (s : List Char) : List UInt8 := s.flatMap String.utf8EncodeChar

/-- The bytes of a text. -/
def encodeText (s : String) : List UInt8 := encode s.toList

/-- The character that stands for bytes that are none. -/
def replacement : Char := '\uFFFD'

/-- Whether a byte continues a character. -/
def isTail (b : UInt8) : Bool := 0x80 ≤ b && b ≤ 0xBF

/-- Whether a byte may follow a first byte. -/
def mayFollow (first second : UInt8) : Bool :=
  if first == 0xE0 then 0xA0 ≤ second && second ≤ 0xBF
  else if first == 0xED then 0x80 ≤ second && second ≤ 0x9F
  else if first == 0xF0 then 0x90 ≤ second && second ≤ 0xBF
  else if first == 0xF4 then 0x80 ≤ second && second ≤ 0x8F
  else isTail second

/-- The number of bytes that a first byte announces; none for a byte that begins no character. -/
def width (first : UInt8) : Nat :=
  if first < 0x80 then 1
  else if 0xC2 ≤ first && first ≤ 0xDF then 2
  else if 0xE0 ≤ first && first ≤ 0xEF then 3
  else if 0xF0 ≤ first && first ≤ 0xF4 then 4
  else 0

/-- The character of two bytes. -/
def pair (a b : UInt8) : Char := Char.ofNat ((a.toNat % 32) * 64 + b.toNat % 64)

/-- The character of three bytes. -/
def triple (a b c : UInt8) : Char :=
  Char.ofNat (((a.toNat % 16) * 64 + b.toNat % 64) * 64 + c.toNat % 64)

/-- The character of four bytes. -/
def quadruple (a b c d : UInt8) : Char :=
  Char.ofNat ((((a.toNat % 8) * 64 + b.toNat % 64) * 64 + c.toNat % 64) * 64 + d.toNat % 64)

/-- Takes the first character, or nothing for bytes that are none, and what follows. -/
def next : UInt8 → List UInt8 → Option Char × List UInt8
  | a, r =>
    match width a, r with
    | 1, r => (some (Char.ofNat a.toNat), r)
    | 2, b :: r' => if mayFollow a b then (some (pair a b), r') else (none, r)
    | 3, b :: r' =>
      if mayFollow a b then
        match r' with
        | c :: r'' => if isTail c then (some (triple a b c), r'') else (none, r')
        | [] => (none, [])
      else (none, r)
    | 4, b :: r' =>
      if mayFollow a b then
        match r' with
        | c :: r'' =>
          if isTail c then
            match r'' with
            | d :: r''' => if isTail d then (some (quadruple a b c d), r''') else (none, r'')
            | [] => (none, [])
          else (none, r')
        | [] => (none, [])
      else (none, r)
    | _, r => (none, r)

theorem length_next_le (a : UInt8) (r : List UInt8) : (next a r).2.length ≤ r.length := by
  unfold next
  repeat' split
  all_goals simp_all
  all_goals omega

/-- The text of bytes, with replacement characters for bytes that are none. -/
def decodeLossy : List UInt8 → List Char
  | [] => []
  | a :: r => (next a r).1.getD replacement :: decodeLossy (next a r).2
  termination_by s => s.length
  decreasing_by
    have := length_next_le a r
    simp only [List.length_cons]
    omega

/-- The text of bytes, if they are one. -/
def decode? : List UInt8 → Option (List Char)
  | [] => some []
  | a :: r =>
    match (next a r).1 with
    | some c => (decode? (next a r).2).map (c :: ·)
    | none => none
  termination_by s => s.length
  decreasing_by
    have := length_next_le a r
    simp only [List.length_cons]
    omega

/-- The text of bytes, with replacement characters for bytes that are none. -/
def lossyText (bytes : List UInt8) : String := String.ofList (decodeLossy bytes)

end Utf8

end Dialogue
