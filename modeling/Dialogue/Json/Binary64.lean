/-!
# Binary floating point numbers

Finite 64-bit binary numbers as a sign, a significand and an exponent, in exact arithmetic on
natural numbers. A ratio is rounded to the nearest such number, a tie to the even significand.
The text of a number has the fewest digits that read back as it, and of those the nearest.
-/

namespace Dialogue

/-- The number `significand · 2 ^ exponent`, negated if `negative`. Numbers made here have a
significand of 53 bits, or a smaller one at the least exponent, -1074. -/
structure Binary64 where
  negative : Bool
  significand : Nat
  exponent : Int
  deriving DecidableEq, Repr, Inhabited

namespace Binary64

/-- The least exponent, that of the smallest numbers. -/
def leastExponent : Int := -1074

/-- The greatest exponent of a finite number. -/
def greatestExponent : Int := 971

/-- Zero, with a sign. -/
def zero (negative : Bool) : Binary64 := ⟨negative, 0, leastExponent⟩

/-- Whether the number is zero of either sign. -/
def isZero (x : Binary64) : Bool := x.significand == 0

/-- `num / den` rounded to a whole number, a tie to the even one. -/
def divRound (num den : Nat) : Nat :=
  let q := num / den
  let twice := 2 * (num % den)
  if den < twice || (twice == den && q % 2 == 1) then q + 1 else q

/-- `num / den · 2 ^ (-e)` as a ratio. -/
def scaled (num den : Nat) (e : Int) : Nat × Nat :=
  if 0 ≤ e then (num, den <<< e.toNat) else (num <<< (-e).toNat, den)

/-- The exponent at which the significand of `num / den` has 53 bits, or the least one. -/
def exponentOf (num den : Nat) : Int :=
  let guess := max ((num.log2 : Int) - den.log2 - 53) leastExponent
  let (n, d) := scaled num den guess
  if n / d < 1 <<< 53 then guess else guess + 1

/-- The number nearest to a ratio, or nothing when that is too large to be finite. -/
def ofRatio? (negative : Bool) (num den : Nat) : Option Binary64 :=
  if num == 0 then some (zero negative)
  else
    let e := exponentOf num den
    let (n, d) := scaled num den e
    let m := divRound n d
    let (m, e) := if m == 1 <<< 53 then (1 <<< 52, e + 1) else (m, e)
    if greatestExponent < e then none else some ⟨negative, m, e⟩

/-- The size of a number as a ratio. -/
def ratio (x : Binary64) : Nat × Nat :=
  if 0 ≤ x.exponent then (x.significand <<< x.exponent.toNat, 1)
  else (x.significand, 1 <<< (-x.exponent).toNat)

/-- The number nearest to an integer below `2 ^ 1023`. -/
def ofInt (n : Int) : Binary64 := (ofRatio? (n < 0) n.natAbs 1).getD (zero (n < 0))

/-- The product with a power of ten, both rounded. -/
def timesPowerOfTen? (x : Binary64) (k : Nat) : Option Binary64 := do
  let p ← ofRatio? false (Nat.pow 10 k) 1
  let (n, d) := x.ratio
  let (n', d') := p.ratio
  ofRatio? x.negative (n * n') (d * d')

/-- The quotient by a power of ten, both rounded. -/
def overPowerOfTen? (x : Binary64) (k : Nat) : Option Binary64 := do
  let p ← ofRatio? false (Nat.pow 10 k) 1
  let (n, d) := x.ratio
  let (n', d') := p.ratio
  ofRatio? x.negative (n * d') (d * n')

/-- Divides by `10 ^ 308` a number of times, or until nothing is left. -/
def overGreatestPower? : Nat → Binary64 → Option Binary64
  | 0, x => some x
  | n + 1, x => if x.isZero then some x else (x.overPowerOfTen? 308).bind (overGreatestPower? n)

/-- Divides by `10 ^ k`, in steps of `10 ^ 308` while more than that is left. -/
def overPowersOfTen? (x : Binary64) (k : Nat) : Option Binary64 := do
  let steps := (k - 1) / 308
  let y ← overGreatestPower? steps x
  if y.isZero then some y else y.overPowerOfTen? (k - 308 * steps)

/-- The number written as `significand · 10 ^ exponent`: the significand is rounded first, then
its product with, or quotient by, the power of ten. Nothing when it is too large to be finite. -/
def ofDecimal? (negative : Bool) (significand : Nat) (exponent : Int) : Option Binary64 := do
  let x ← ofRatio? negative significand 1
  if 0 ≤ exponent then
    if exponent ≤ 308 then x.timesPowerOfTen? exponent.toNat
    else if x.isZero then some x else none
  else x.overPowersOfTen? (-exponent).toNat

/-- The ends of the interval of reals that round to a number, and the number itself, as multiples
of `2 ^ (exponent - 2)`. -/
def neighbourhood (x : Binary64) : Nat × Nat × Nat :=
  let m := x.significand
  let below := if m == 1 <<< 52 && leastExponent < x.exponent then 4 * m - 1 else 4 * m - 2
  (below, 4 * m, 4 * m + 2)

/-- The decimal exponent of the leading digit of `num / den`, which is below 1. -/
def fractionExponent (num den : Nat) : Nat → Nat → Nat
  | 0, j => j
  | fuel + 1, j => if den ≤ num * Nat.pow 10 j then j else fractionExponent num den fuel (j + 1)

/-- The decimal exponent of the leading digit of a number other than zero. -/
def leadingExponent (x : Binary64) : Int :=
  let (n, d) := x.ratio
  if d ≤ n then ((Nat.toDigits 10 (n / d)).length : Int) - 1
  else -(fractionExponent n d 330 1 : Nat)

/-- The nearest multiple of `10 ^ place` in the interval that rounds to the number, as the factor
of `10 ^ place`; of two equally near ones the even one. -/
def nearestOnGrid? (x : Binary64) (place : Int) : Option Nat :=
  let (lo, mid, hi) := x.neighbourhood
  let two := x.exponent - 2
  -- everything as a whole number of units of `2 ^ min two 0 · 10 ^ min place 0`
  let bin := if 0 ≤ two then 1 <<< two.toNat else 1
  let binInv := if 0 ≤ two then 1 else 1 <<< (-two).toNat
  let dec := if 0 ≤ place then Nat.pow 10 place.toNat else 1
  let decInv := if 0 ≤ place then 1 else Nat.pow 10 (-place).toNat
  let unit := dec * binInv
  let value := mid * bin * decInv
  let least := lo * bin * decInv
  let greatest := hi * bin * decInv
  let ends := x.significand % 2 == 0
  let inside := fun (k : Nat) =>
    (least < k * unit || (ends && least == k * unit)) &&
      (k * unit < greatest || (ends && greatest == k * unit))
  let k := value / unit
  let nearer := divRound value unit
  let other := if nearer == k then k + 1 else k
  if 0 < nearer && inside nearer then some nearer
  else if 0 < other && inside other then some other else none

/-- The digits and the place of the last one, for the first count of digits that reads back. -/
def shortestFrom (x : Binary64) (lead : Int) : Nat → Nat → Nat × Int
  | 0, n => ((x.nearestOnGrid? (lead - n)).getD 0, lead - n)
  | fuel + 1, n =>
    match x.nearestOnGrid? (lead - n) with
    | some k => (k, lead - n)
    | none => shortestFrom x lead fuel (n + 1)

/-- Drops zeros at the end of the digits. -/
def dropZeros : Nat → Nat → Int → Nat × Int
  | 0, k, p => (k, p)
  | fuel + 1, k, p => if k % 10 == 0 && k != 0 then dropZeros fuel (k / 10) (p + 1) else (k, p)

/-- The fewest digits that read back as a number other than zero, as a whole number without a
trailing zero and the decimal place of its last digit. -/
def shortest (x : Binary64) : Nat × Int :=
  let (k, p) := shortestFrom x x.leadingExponent 17 0
  dropZeros 20 k p

/-- How a number is written: positional when the exponent of the leading digit is at least
`leastPositional` and at most `greatestPositional`, with `.0` where there is no fraction. -/
structure Format where
  leastPositional : Int
  greatestPositional : Int
  positiveExponent : String
  negativeExponent : String

/-- The format of numbers in documents. -/
def documentFormat : Format := ⟨-5, 15, "e+", "e-"⟩

/-- Writes digits whose last one stands at decimal place `place`. -/
def Format.write (f : Format) (digits : List Char) (place : Int) : String :=
  let lead := place + digits.length - 1
  if f.leastPositional ≤ lead && lead ≤ f.greatestPositional then
    if 0 ≤ place then String.ofList (digits ++ List.replicate place.toNat '0') ++ ".0"
    else if 0 ≤ lead then
      String.ofList (digits.take (lead + 1).toNat) ++ "." ++
        String.ofList (digits.drop (lead + 1).toNat)
    else "0." ++ String.ofList (List.replicate (-lead - 1).toNat '0' ++ digits)
  else
    let mantissa := match digits with
      | [] => ""
      | [d] => String.singleton d
      | d :: r => String.ofList (d :: '.' :: r)
    mantissa ++ (if 0 ≤ lead then f.positiveExponent else f.negativeExponent) ++
      String.ofList (Nat.toDigits 10 lead.natAbs)

/-- The text of a number in a document. -/
def text (x : Binary64) : String :=
  (if x.negative then "-" else "") ++
    if x.isZero then "0.0"
    else
      let (k, p) := x.shortest
      documentFormat.write (Nat.toDigits 10 k) p

/-- Writes digits positionally, a whole number without a point. -/
def writePlain (digits : List Char) (place : Int) : String :=
  let lead := place + digits.length - 1
  if 0 ≤ place then String.ofList (digits ++ List.replicate place.toNat '0')
  else if 0 ≤ lead then
    String.ofList (digits.take (lead + 1).toNat) ++ "." ++
      String.ofList (digits.drop (lead + 1).toNat)
  else "0." ++ String.ofList (List.replicate (-lead - 1).toNat '0' ++ digits)

/-- The text of a number without an exponent. -/
def plainText (x : Binary64) : String :=
  (if x.negative then "-" else "") ++
    if x.isZero then "0"
    else
      let (k, p) := x.shortest
      writePlain (Nat.toDigits 10 k) p

/-- The integer nearest to a number, a half away from zero. -/
def round (x : Binary64) : Int :=
  let (n, d) := x.ratio
  let size : Nat := (2 * n + d) / (2 * d)
  if x.negative then -size else size

end Binary64

end Dialogue
