import Dialogue.Json.Basic
import Dialogue.Text.Utf8

/-!
# Reading JSON

A text is a value between blanks. Numbers without fraction and exponent are whole numbers inside
the range of 64 bits and floating point numbers outside it; minus zero is a floating point number.
A floating point number keeps as many leading digits as fit 64 bits. Of several values of one key
the last stays. Values nested more than a limit deep are refused.
-/

namespace Dialogue

namespace Json

/-- The most levels of arrays and objects inside one another. -/
def nestingLimit : Nat := 127

/-- The characters between the tokens. -/
def isSpace (c : Char) : Bool := c == ' ' || c == '\n' || c == '\t' || c == '\r'

/-- Drops the characters between tokens. -/
def skipSpace (s : List Char) : List Char := s.dropWhile isSpace

/-- The value of a hexadecimal digit of either case. -/
def hexValue? (c : Char) : Option Nat :=
  if c.isDigit then some (c.toNat - 48)
  else if 'a' ≤ c && c ≤ 'f' then some (c.toNat - 87)
  else if 'A' ≤ c && c ≤ 'F' then some (c.toNat - 55)
  else none

/-- The number that four hexadecimal digits write. -/
def hexQuad? (a b c d : Char) : Option Nat := do
  return ((← hexValue? a) * 16 + (← hexValue? b)) * 256 + (← hexValue? c) * 16 + (← hexValue? d)

/-- The character that one letter after a backslash stands for. -/
def unescape? : Char → Option Char
  | '"' => some '"'
  | '\\' => some '\\'
  | '/' => some '/'
  | 'b' => some (Char.ofNat 8)
  | 'f' => some (Char.ofNat 12)
  | 'n' => some '\n'
  | 'r' => some '\r'
  | 't' => some '\t'
  | _ => none

/-- Whether a 16-bit unit is the first half of a pair. -/
def isLeading (n : Nat) : Bool := 0xD800 ≤ n && n ≤ 0xDBFF

/-- Whether a 16-bit unit is the second half of a pair. -/
def isTrailing (n : Nat) : Bool := 0xDC00 ≤ n && n ≤ 0xDFFF

/-- Reads a string up to its closing quote. -/
def readString : List Char → Option (List Char × List Char)
  | '"' :: r => some ([], r)
  | '\\' :: 'u' :: a :: b :: c :: d :: '\\' :: 'u' :: e :: f :: g :: h :: r =>
    match hexQuad? a b c d with
    | none => none
    | some n =>
      if isLeading n then
        match hexQuad? e f g h with
        | none => none
        | some m =>
          if isTrailing m then
            (readString r).map fun p =>
              (Char.ofNat (0x10000 + (n - 0xD800) * 0x400 + (m - 0xDC00)) :: p.1, p.2)
          else none
      else if isTrailing n then none
      else
        (readString ('\\' :: 'u' :: e :: f :: g :: h :: r)).map fun p => (Char.ofNat n :: p.1, p.2)
  | '\\' :: 'u' :: a :: b :: c :: d :: r =>
    match hexQuad? a b c d with
    | none => none
    | some n =>
      if isLeading n || isTrailing n then none
      else (readString r).map fun p => (Char.ofNat n :: p.1, p.2)
  | '\\' :: c :: r =>
    match unescape? c with
    | none => none
    | some d => (readString r).map fun p => (d :: p.1, p.2)
  | c :: r =>
    if c = '\\' || c.toNat < 0x20 then none else (readString r).map fun p => (c :: p.1, p.2)
  | [] => none

/-- The greatest significand that is kept. -/
def significandLimit : Nat := 18446744073709551615

/-- The greatest exponent that is read digit by digit. -/
def exponentLimit : Nat := 2147483647

/-- Adds digits to a significand while it fits, and counts the ones that are left. -/
def readSignificand : Nat → List Char → Nat × Nat × List Char
  | n, [] => (n, 0, [])
  | n, c :: r =>
    if c.isDigit then
      if significandLimit < n * 10 + (c.toNat - 48) then
        (n, ((c :: r).takeWhile Char.isDigit).length, (c :: r).dropWhile Char.isDigit)
      else readSignificand (n * 10 + (c.toNat - 48)) r
    else (n, 0, c :: r)

/-- Adds the digits of a fraction while the significand fits, and counts those added. -/
def readFraction : Nat → Nat → List Char → Nat × Nat × List Char
  | n, k, [] => (n, k, [])
  | n, k, c :: r =>
    if c.isDigit then
      if significandLimit < n * 10 + (c.toNat - 48) then (n, k, (c :: r).dropWhile Char.isDigit)
      else readFraction (n * 10 + (c.toNat - 48)) (k + 1) r
    else (n, k, c :: r)

/-- The number that digits write. -/
def digitsValue (s : List Char) : Nat := s.foldl (fun n c => n * 10 + (c.toNat - 48)) 0

/-- Reads an optional exponent and rounds the number. -/
def readExponent (negative : Bool) (significand : Nat) (exponent : Int) (s : List Char) :
    Option (Json × List Char) :=
  match s with
  | e :: r =>
    if e = 'e' || e = 'E' then
      let (minus, r) := match r with
        | '+' :: r => (false, r)
        | '-' :: r => (true, r)
        | r => (false, r)
      let digits := r.takeWhile Char.isDigit
      let rest := r.dropWhile Char.isDigit
      if digits.isEmpty then none
      else
        let n := digitsValue digits
        if exponentLimit < n then
          if significand = 0 || minus then some (.float (.zero negative), rest) else none
        else
          let e : Int := if minus then exponent - n else exponent + n
          (Binary64.ofDecimal? negative significand e).map fun x => (.float x, rest)
    else (Binary64.ofDecimal? negative significand exponent).map fun x => (.float x, s)
  | [] => (Binary64.ofDecimal? negative significand exponent).map fun x => (.float x, [])

/-- Reads what follows the whole part of a number of which `dropped` digits were left out. -/
def readNumberRest (negative : Bool) (n dropped : Nat) (s : List Char) :
    Option (Json × List Char) :=
  match s with
  | '.' :: r =>
    match r with
    | c :: _ =>
      if c.isDigit then
        let (m, k, rest) := readFraction n 0 r
        readExponent negative m ((dropped : Int) - k) rest
      else none
    | [] => none
  | c :: _ =>
    if c = 'e' || c = 'E' || 0 < dropped then readExponent negative n dropped s
    else whole s
  | [] => if 0 < dropped then readExponent negative n dropped s else whole s
where
  /-- A number without fraction and exponent. -/
  whole (s : List Char) : Option (Json × List Char) :=
    if negative then
      if n = 0 || 9223372036854775808 < n then
        (Binary64.ofDecimal? true n 0).map fun x => (.float x, s)
      else some (.int (-n), s)
    else some (.int n, s)

/-- Reads a number after its sign. -/
def readNumber (negative : Bool) : List Char → Option (Json × List Char)
  | '0' :: r =>
    match r with
    | c :: _ => if c.isDigit then none else readNumberRest negative 0 0 r
    | [] => readNumberRest negative 0 0 []
  | c :: r =>
    if c.isDigit then
      let (n, dropped, rest) := readSignificand 0 (c :: r)
      readNumberRest negative n dropped rest
    else none
  | [] => none

mutual

/-- Reads a value, blanks in front of it allowed. -/
def readValue : Nat → Nat → List Char → Option (Json × List Char)
  | 0, _, _ => none
  | fuel + 1, depth, s =>
    match skipSpace s with
    | 'n' :: 'u' :: 'l' :: 'l' :: r => some (.null, r)
    | 't' :: 'r' :: 'u' :: 'e' :: r => some (.bool true, r)
    | 'f' :: 'a' :: 'l' :: 's' :: 'e' :: r => some (.bool false, r)
    | '"' :: r => (readString r).map fun p => (.str (String.ofList p.1), p.2)
    | '-' :: r => readNumber true r
    | '[' :: r =>
      match depth with
      | 0 => none
      | depth + 1 =>
        match skipSpace r with
        | ']' :: r => some (.arr [], r)
        | r => (readItems fuel depth r).map fun p => (.arr p.1, p.2)
    | '{' :: r =>
      match depth with
      | 0 => none
      | depth + 1 =>
        match skipSpace r with
        | '}' :: r => some (.obj [], r)
        | r => (readMembers fuel depth r).map fun p => (.object p.1, p.2)
    | r => readNumber false r

/-- Reads the items of an array and its closing bracket. -/
def readItems : Nat → Nat → List Char → Option (List Json × List Char)
  | 0, _, _ => none
  | fuel + 1, depth, s =>
    match readValue fuel depth s with
    | none => none
    | some (v, r) =>
      match skipSpace r with
      | ']' :: r => some ([v], r)
      | ',' :: r => (readItems fuel depth r).map fun p => (v :: p.1, p.2)
      | _ => none

/-- Reads the members of an object and its closing bracket. -/
def readMembers : Nat → Nat → List Char → Option (List (String × Json) × List Char)
  | 0, _, _ => none
  | fuel + 1, depth, s =>
    match skipSpace s with
    | '"' :: r =>
      match readString r with
      | none => none
      | some (k, r) =>
        match skipSpace r with
        | ':' :: r =>
          match readValue fuel depth r with
          | none => none
          | some (v, r) =>
            match skipSpace r with
            | '}' :: r => some ([(String.ofList k, v)], r)
            | ',' :: r =>
              (readMembers fuel depth r).map fun p => ((String.ofList k, v) :: p.1, p.2)
            | _ => none
        | _ => none
    | _ => none

end

/-- Reads a whole text as one value of at most `depth` levels. -/
def parseWithin? (depth : Nat) (s : String) : Option Json :=
  let chars := s.toList
  match readValue (2 * chars.length + 2) depth chars with
  | some (v, r) => if (skipSpace r).isEmpty then some v else none
  | none => none

/-- Reads a whole text as one value. -/
def parse? (s : String) : Option Json := parseWithin? nestingLimit s

/-- Reads bytes as one value; bytes that are no text are no value. -/
def parseBytes? (bytes : List UInt8) : Option Json :=
  (Utf8.decode? bytes).bind fun s => parse? (String.ofList s)

end Json

end Dialogue
