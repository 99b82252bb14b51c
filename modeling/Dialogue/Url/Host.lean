import Dialogue.Text.Blank
import Dialogue.Text.Integer
import Dialogue.Url.Percent

/-!
# Hosts

The host of a web address is an IPv6 address in brackets, an IPv4 address in any of its spellings,
or a domain. A domain is percent-decoded and lowercased; it is refused if it holds a character that
no domain has. A label that announces an encoded name must encode one. What a domain with characters
outside ASCII is called hangs on the tables of Unicode, which are given from outside (`HostNames`).
-/

namespace Dialogue

/-- Why a text is no web address. -/
inductive UrlError where
  | relative
  | emptyHost
  | domain
  | port
  | ipv4
  | ipv6
  | domainCharacter
  deriving DecidableEq, Repr

/-- The reason in words. -/
def UrlError.message : UrlError → String
  | .relative => "relative URL without a base"
  | .emptyHost => "empty host"
  | .domain => "invalid international domain name"
  | .port => "invalid port number"
  | .ipv4 => "invalid IPv4 address"
  | .ipv6 => "invalid IPv6 address"
  | .domainCharacter => "invalid domain character"

/-- What domains with characters outside ASCII are called in ASCII; none if it has no such name. -/
structure HostNames where
  ascii? : List Char → Option (List Char)

/-- No domain with characters outside ASCII has a name. -/
def HostNames.none : HostNames := ⟨fun _ => Option.none⟩

namespace Host

open Text

/-- The value of a digit of a base up to 16. -/
def digitIn? (base : Nat) (c : Char) : Option Nat :=
  match Percent.digitValue? (UInt8.ofNat (min c.toNat 255)) with
  | some d => if d < base then some d else none
  | none => none

/-- The number that digits of a base write. -/
def numberIn? (base : Nat) (s : List Char) : Option Nat :=
  s.foldlM (fun n c => (digitIn? base c).map fun d => n * base + d) 0

/-- The number of a part of an IPv4 address: decimal, or octal after a zero, or hexadecimal after
`0x`. -/
def ipv4Part? : List Char → Option Nat
  | [] => none
  | '0' :: c :: r =>
    if c = 'x' || c = 'X' then numberIn? 16 r else numberIn? 8 (c :: r)
  | s => numberIn? 10 s

/-- Whether the last label is a number, so that the host must be an IPv4 address. -/
def endsInNumber (s : List Char) : Bool :=
  let labels := (fields (· == '.') s).reverse
  let last? := match labels with
    | [] :: l :: _ => some l
    | [] :: [] => none
    | l :: _ => some l
    | [] => none
  match last? with
  | some l => (!l.isEmpty && l.all Char.isDigit) || (ipv4Part? l).isSome
  | none => false

/-- The parts of an IPv4 address as one number: each but the last is a byte. -/
def ipv4Value? : List Nat → Option Nat
  | [] => none
  | numbers =>
    let front := numbers.dropLast
    let last := numbers.getLast?.getD 0
    if last ≥ Nat.pow 256 (4 - front.length) || front.any (255 < ·) then none
    else some (front.zipIdx.foldl (fun n p => n + p.1 * Nat.pow 256 (3 - p.2)) last)

/-- Reads an IPv4 address and writes it in four decimal parts. -/
def ipv4? (s : List Char) : Option (List Char) := do
  let labels := fields (· == '.') s
  let labels := if labels.getLast? == some [] then labels.dropLast else labels
  if 4 < labels.length then none
  let numbers ← labels.mapM ipv4Part?
  let n ← ipv4Value? numbers
  let byte := fun (k : Nat) => natChars (n / Nat.pow 256 k % 256)
  return byte 3 ++ '.' :: byte 2 ++ '.' :: byte 1 ++ '.' :: byte 0

/-- The number of a group of an IPv6 address. -/
def ipv6Group? (s : List Char) : Option Nat :=
  if s.isEmpty || 4 < s.length then none else numberIn? 16 s

/-- The decimal bytes at the end of an IPv6 address. -/
def ipv6Byte? (s : List Char) : Option Nat :=
  match s with
  | [] => none
  | '0' :: _ :: _ => none
  | s => if 3 < s.length then none
    else (numberIn? 10 s).bind fun n => if n ≤ 255 then some n else none

/-- The groups of one side of an IPv6 address; the last may be an IPv4 address. -/
def ipv6Groups? : List (List Char) → Option (List Nat)
  | [] => some []
  | [g] =>
    if g.contains '.' then
      match (fields (· == '.') g).mapM ipv6Byte? with
      | some [a, b, c, d] => some [a * 256 + b, c * 256 + d]
      | _ => none
    else (ipv6Group? g).map fun n => [n]
  | g :: r => do return (← ipv6Group? g) :: (← ipv6Groups? r)

/-- Splits at the first two colons that stand together. -/
def splitGap? : List Char → Option (List Char × List Char)
  | [] => none
  | ':' :: ':' :: r => some ([], r)
  | c :: r => (splitGap? r).map fun p => (c :: p.1, p.2)

/-- The groups of a side that may be empty. -/
def ipv6Side? (s : List Char) : Option (List Nat) :=
  if s.isEmpty then some [] else ipv6Groups? (fields (· == ':') s)

/-- The eight groups of an IPv6 address; two colons stand for at least one group of zeros. -/
def ipv6Value? (s : List Char) : Option (List Nat) :=
  match splitGap? s with
  | some (left, right) => do
    if left.contains '.' then none
    let l ← ipv6Side? left
    let r ← ipv6Side? right
    if l.length + r.length < 8 then
      return l ++ List.replicate (8 - l.length - r.length) 0 ++ r
    else none
  | none => do
    let l ← ipv6Groups? (fields (· == ':') s)
    if l.length = 8 then return l else none

/-- The length of the run of zeros at the front. -/
def zeros (l : List Nat) : Nat := (l.takeWhile (· == 0)).length

/-- The start and length of the first longest run of zeros. -/
def longestZeros (l : List Nat) : Nat × Nat :=
  (List.range l.length).foldl
    (fun best i => if best.2 < zeros (l.drop i) then (i, zeros (l.drop i)) else best) (0, 0)

/-- Groups in lower-case hexadecimal with colons between them. -/
def groupsText (l : List Nat) : List Char := [':'].intercalate (l.map (Nat.toDigits 16))

/-- An IPv6 address with its longest run of two or more zero groups left out. -/
def ipv6Text (l : List Nat) : List Char :=
  let (start, count) := longestZeros l
  if count < 2 then groupsText l
  else groupsText (l.take start) ++ ':' :: ':' :: groupsText (l.drop (start + count))

/-- Whether no domain holds the character. -/
def isForbidden (c : Char) : Bool :=
  c.toNat ≤ 0x20 || c.toNat == 0x7F ||
    ['#', '/', ':', '<', '>', '?', '@', '[', '\\', ']', '^', '|', '%'].contains c

/-- The value of a digit of an encoded name. -/
def nameDigit? (c : Char) : Option Nat :=
  if 'a' ≤ c && c ≤ 'z' then some (c.toNat - 97)
  else if c.isDigit then some (c.toNat - 22)
  else none

/-- The next bias of an encoded name. -/
def nameBias (delta count : Nat) (first : Bool) : Nat :=
  let d := if first then delta / 700 else delta / 2
  go 32 (d + d / count) 0
where
  /-- Divides while the rest is large. -/
  go : Nat → Nat → Nat → Nat
    | 0, d, k => k + 36 * d / (d + 38)
    | fuel + 1, d, k => if 455 < d then go fuel (d / 35) (k + 36) else k + 36 * d / (d + 38)

/-- Reads one number of an encoded name. -/
def nameDelta? (bias : Nat) : Nat → Nat → Nat → List Char → Option (Nat × List Char)
  | _, _, _, [] => none
  | i, w, k, c :: r => do
    let d ← nameDigit? c
    let i := i + d * w
    let t := if k ≤ bias then 1 else if bias + 26 ≤ k then 26 else k - bias
    if 4294967296 ≤ i then none
    else if d < t then some (i, r)
    else nameDelta? bias i (w * (36 - t)) (k + 36) r

/-- Whether the digits of an encoded name insert characters that a name may have. -/
def nameRest? : Nat → Nat → Nat → Nat → Nat → Bool → List Char → Option Unit
  | _, _, _, _, _, _, [] => some ()
  | 0, _, _, _, _, _, _ => none
  | fuel + 1, n, i, count, bias, first, s => do
    let (j, r) ← nameDelta? bias i 1 36 s
    let count := count + 1
    let n := n + j / count
    if n < 0xA0 || 0x10FFFF < n || (0xD800 ≤ n && n ≤ 0xDFFF) then none
    else nameRest? fuel n (j % count + 1) count (nameBias (j - i) count first) false r

/-- Whether what follows `xn--` encodes a name with characters outside ASCII. -/
def isEncodedName (s : List Char) : Bool :=
  let digits := (s.reverse.takeWhile (· != '-')).reverse
  let basic := s.length - digits.length - 1
  !digits.isEmpty && (nameRest? (digits.length + 1) 128 0 basic 72 true digits).isSome

/-- Whether a label may stand in a domain. -/
def isLabel (s : List Char) : Bool :=
  match afterLead? "xn--".toList s with
  | some r => isEncodedName r
  | none => true

/-- The domain of a percent-encoded text, in ASCII. -/
def domain? (names : HostNames) (s : List Char) : Option (List Char) := do
  let decoded ← Utf8.decode? (Percent.decode (Utf8.encode s))
  if decoded.any fun c => 0x80 ≤ c.toNat then names.ascii? decoded
  else
    let lower := decoded.map Char.toLower
    if lower.any isForbidden then none
    else if (fields (· == '.') lower).all isLabel then some lower
    else none

/-- The host of a web address. -/
def parse (names : HostNames) (s : List Char) : Except UrlError (List Char) :=
  match s with
  | '[' :: r =>
    if r.getLast? == some ']' then
      match ipv6Value? r.dropLast with
      | some groups => .ok ('[' :: ipv6Text groups ++ [']'])
      | none => .error .ipv6
    else .error .ipv6
  | _ =>
    match domain? names s with
    | none => .error .domain
    | some d =>
      if d.isEmpty then .error .emptyHost
      else if endsInNumber d then
        match ipv4? d with
        | some a => .ok a
        | none => .error .ipv4
      else .ok d

/-- Whether no host of any address holds the character. -/
def isForbiddenAnywhere (c : Char) : Bool :=
  c.toNat == 0 || c == '\t' || c == '\n' || c == '\r' ||
    [' ', '#', '/', ':', '<', '>', '?', '@', '[', '\\', ']', '^', '|'].contains c

/-- The host of an address that is no web address. -/
def parseOpaque (names : HostNames) (s : List Char) : Except UrlError (List Char) :=
  match s with
  | '[' :: _ => parse names s
  | _ =>
    if s.any isForbiddenAnywhere then .error .domainCharacter
    else .ok (Percent.encode Percent.isControl s)

end Host

end Dialogue
