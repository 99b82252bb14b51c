/-!
# Blanks

The characters with the Unicode property White_Space, and trimming by them. Text is trimmed on
lists of characters; the functions on strings only wrap those.
-/

namespace Dialogue

namespace Text

/-- The characters with the Unicode property White_Space. -/
def isBlank (c : Char) : Bool :=
  let n := c.toNat
  (9 ≤ n && n ≤ 13) || n == 0x20 || n == 0x85 || n == 0xA0 || n == 0x1680 ||
    (0x2000 ≤ n && n ≤ 0x200A) || n == 0x2028 || n == 0x2029 || n == 0x202F || n == 0x205F ||
    n == 0x3000

/-- Drops blanks at the front. -/
def trimStartChars (s : List Char) : List Char := s.dropWhile isBlank

/-- Drops blanks at the end. -/
def trimEndChars (s : List Char) : List Char := (s.reverse.dropWhile isBlank).reverse

/-- Drops blanks at both ends. -/
def trimChars (s : List Char) : List Char := trimEndChars (trimStartChars s)

/-- Drops blanks at both ends of a text. -/
def trim (s : String) : String := String.ofList (trimChars s.toList)

/-- Drops every `c` at the end. -/
def dropEndChars (c : Char) (s : List Char) : List Char := (s.reverse.dropWhile (· == c)).reverse

/-- The part after `lead`, if the text starts with it. -/
def afterLead? : List Char → List Char → Option (List Char)
  | [], s => some s
  | _ :: _, [] => none
  | c :: lead, d :: s => if c = d then afterLead? lead s else none

theorem afterLead?_append (lead s : List Char) : afterLead? lead (lead ++ s) = some s := by
  induction lead with
  | nil => rfl
  | cons c r ih => simp [afterLead?, ih]

theorem eq_append_of_afterLead? {lead s r : List Char} (h : afterLead? lead s = some r) :
    s = lead ++ r := by
  induction lead generalizing s with
  | nil => simpa [afterLead?] using h
  | cons c lead ih =>
    cases s with
    | nil => simp [afterLead?] at h
    | cons d s =>
      by_cases hc : c = d
      · subst hc
        simp only [afterLead?, if_true] at h
        rw [ih h, List.cons_append]
      · simp [afterLead?, hc] at h

/-- Splits at the first `c`, which belongs to neither part. -/
def splitAt? (c : Char) : List Char → Option (List Char × List Char)
  | [] => none
  | d :: r => if d = c then some ([], r) else (splitAt? c r).map fun p => (d :: p.1, p.2)

/-- The parts between the characters that `sep` marks; there is always at least one. -/
def fields (sep : Char → Bool) : List Char → List (List Char)
  | [] => [[]]
  | c :: r =>
    if sep c then [] :: fields sep r
    else match fields sep r with
      | [] => [[c]]
      | f :: fs => (c :: f) :: fs

/-- Whether `inner` stands somewhere in the text. -/
def contains (inner : List Char) : List Char → Bool
  | [] => inner.isEmpty
  | c :: r => inner.isPrefixOf (c :: r) || contains inner r

end Text

end Dialogue
