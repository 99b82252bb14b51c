import Dialogue.Json.Reader

/-!
# Skimming JSON

The fields of a document are found in its bytes without reading what is not asked for. Whatever
is skimmed has the form of a value but need not be one that can be held: numbers may be of any
size, strings may hold halves of pairs and bytes that are no text, and values may lie as deep as
they like. A byte stands for the character of its number, since only characters below 128 matter
to the form.
-/

namespace Dialogue

namespace Json

/-- Skips a string up to its closing quote. -/
def skipString : List Char → Option (List Char)
  | '"' :: r => some r
  | '\\' :: 'u' :: a :: b :: c :: d :: r =>
    if (hexQuad? a b c d).isSome then skipString r else none
  | '\\' :: c :: r => if (unescape? c).isSome then skipString r else none
  | c :: r => if c = '\\' || c.toNat < 0x20 then none else skipString r
  | [] => none

/-- Skips digits, of which there is at least one. -/
def skipDigits : List Char → Option (List Char)
  | c :: r => if c.isDigit then some (r.dropWhile Char.isDigit) else none
  | [] => none

/-- Skips an optional exponent. -/
def skipExponent : List Char → Option (List Char)
  | 'e' :: r => skipDigits (unsigned r)
  | 'E' :: r => skipDigits (unsigned r)
  | r => some r
where
  /-- Drops an optional sign. -/
  unsigned : List Char → List Char
    | '+' :: r => r
    | '-' :: r => r
    | r => r

/-- Skips an optional fraction and an optional exponent. -/
def skipFraction : List Char → Option (List Char)
  | '.' :: r => (skipDigits r).bind skipExponent
  | r => skipExponent r

/-- Skips a number after its sign. -/
def skipNumber : List Char → Option (List Char)
  | '0' :: r => if r.head?.any Char.isDigit then none else skipFraction r
  | r => (skipDigits r).bind skipFraction

mutual

/-- Skips a value, blanks in front of it allowed. -/
def skipValue : Nat → List Char → Option (List Char)
  | 0, _ => none
  | fuel + 1, s =>
    match skipSpace s with
    | 'n' :: 'u' :: 'l' :: 'l' :: r => some r
    | 't' :: 'r' :: 'u' :: 'e' :: r => some r
    | 'f' :: 'a' :: 'l' :: 's' :: 'e' :: r => some r
    | '"' :: r => skipString r
    | '-' :: r => skipNumber r
    | '[' :: r =>
      match skipSpace r with
      | ']' :: r => some r
      | r => skipItems fuel r
    | '{' :: r =>
      match skipSpace r with
      | '}' :: r => some r
      | r => skipMembers fuel r
    | r => skipNumber r

/-- Skips the items of an array and its closing bracket. -/
def skipItems : Nat → List Char → Option (List Char)
  | 0, _ => none
  | fuel + 1, s =>
    match (skipValue fuel s).map skipSpace with
    | some (']' :: r) => some r
    | some (',' :: r) => skipItems fuel r
    | _ => none

/-- Skips the members of an object and its closing bracket. -/
def skipMembers : Nat → List Char → Option (List Char)
  | 0, _ => none
  | fuel + 1, s =>
    match skipSpace s with
    | '"' :: r =>
      match (skipString r).map skipSpace with
      | some (':' :: r) =>
        match (skipValue fuel r).map skipSpace with
        | some ('}' :: r) => some r
        | some (',' :: r) => skipMembers fuel r
        | _ => none
      | _ => none
    | _ => none

end

/-- The characters that bytes stand for. -/
def charsOf (bytes : List UInt8) : List Char := bytes.map fun b => Char.ofNat b.toNat

/-- The bytes that stand for characters. -/
def bytesOf (s : List Char) : List UInt8 := s.map fun c => c.toNat.toUInt8

/-- Cuts the bytes of one value off and drops the blanks after it. -/
def cutValue (s : List Char) : Option (List UInt8 × List Char) :=
  (skipValue (2 * s.length + 2) s).map fun r =>
    (bytesOf (s.take (s.length - r.length)), skipSpace r)

/-- Cuts the items of an array off, up to its closing bracket. -/
def cutItems : Nat → List Char → Option (List (List UInt8) × List Char)
  | 0, _ => none
  | fuel + 1, s =>
    match cutValue s with
    | some (v, ']' :: r) => some ([v], r)
    | some (v, ',' :: r) => (cutItems fuel r).map fun p => (v :: p.1, p.2)
    | _ => none

/-- Cuts the members of an object off, up to its closing bracket; their keys are read. -/
def cutMembers : Nat → List Char → Option (List (String × List UInt8) × List Char)
  | 0, _ => none
  | fuel + 1, s =>
    match cutValue s with
    | some (k, ':' :: r) =>
      match (parseBytes? k).bind str?, cutValue r with
      | some k, some (v, '}' :: r) => some ([(k, v)], r)
      | some k, some (v, ',' :: r) => (cutMembers fuel r).map fun p => ((k, v) :: p.1, p.2)
      | _, _ => none
    | _ => none

/-- The fields of an array, which has an item for each of the names and no other. -/
def itemFields? (names : List String) (items : List (List UInt8)) :
    Option (List (String × List UInt8)) :=
  if items.length = names.length then some (names.zip items) else none

/-- The fields of an object, which has at most one member of each of the names. -/
def memberFields? (names : List String) (members : List (String × List UInt8)) :
    Option (List (String × List UInt8)) :=
  if names.all fun n => members.countP (fun m => m.1 == n) ≤ 1 then
    some (members.filter fun m => names.contains m.1)
  else none

/-- The fields of the names given, with the bytes of their values, in a whole document. -/
def fields? (names : List String) (bytes : List UInt8) : Option (List (String × List UInt8)) :=
  match skipSpace (charsOf bytes) with
  | '[' :: r =>
    match skipSpace r with
    | ']' :: r => ended r (itemFields? names [])
    | r => (cutItems r.length r).bind fun p => ended p.2 (itemFields? names p.1)
  | '{' :: r =>
    match skipSpace r with
    | '}' :: r => ended r (memberFields? names [])
    | r => (cutMembers r.length r).bind fun p => ended p.2 (memberFields? names p.1)
  | _ => none
where
  /-- The fields, if nothing follows the document. -/
  ended (rest : List Char) (fields : Option (List (String × List UInt8))) :
      Option (List (String × List UInt8)) :=
    if (skipSpace rest).isEmpty then fields else none

end Json

end Dialogue
