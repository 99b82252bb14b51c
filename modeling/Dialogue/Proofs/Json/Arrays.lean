import Mathlib.Tactic.IntervalCases
import Dialogue.Json.Reader
import Dialogue.Json.Writer

/-!
# Arrays of texts

Only a text that begins with a bracket is read as an array (`head?_of_parse?_arr`), and every list
of texts is read from the array that is written for it (`parse?_render_strings`): the escapes that a
text is written with stand for what they replace, character by character (`readString_escapeChar`).
-/

namespace Dialogue

namespace Json

/-! ## What begins with a bracket -/

/-- What was read is no array. -/
def NoArray (p : Json × List Char) : Prop := p.1.arr? = none

theorem noArray_readExponent (negative : Bool) (n : Nat) (e : Int) (s : List Char) :
    ∀ p ∈ readExponent negative n e s, NoArray p := by
  unfold readExponent
  dsimp only
  repeat' split
  all_goals simp [NoArray, arr?]

theorem noArray_whole (negative : Bool) (n : Nat) (s : List Char) :
    ∀ p ∈ readNumberRest.whole negative n s, NoArray p := by
  unfold readNumberRest.whole
  repeat' split
  all_goals simp [NoArray, arr?]

theorem noArray_readNumberRest (negative : Bool) (n dropped : Nat) (s : List Char) :
    ∀ p ∈ readNumberRest negative n dropped s, NoArray p := by
  unfold readNumberRest
  split
  · split
    · split
      · exact noArray_readExponent _ _ _ _
      · simp
    · simp
  · split
    · exact noArray_readExponent _ _ _ _
    · exact noArray_whole _ _ _
  · split
    · exact noArray_readExponent _ _ _ _
    · exact noArray_whole _ _ _

theorem noArray_readNumber (negative : Bool) (s : List Char) :
    ∀ p ∈ readNumber negative s, NoArray p := by
  unfold readNumber
  split
  · split
    · split
      · simp
      · exact noArray_readNumberRest _ _ _ _
    · exact noArray_readNumberRest _ _ _ _
  · split
    · exact noArray_readNumberRest _ _ _ _
    · simp
  · simp

theorem head?_of_readValue {fuel depth : Nat} {s r : List Char} {items : List Json}
    (h : readValue fuel depth s = some (.arr items, r)) : (skipSpace s).head? = some '[' := by
  cases fuel with
  | zero => simp [readValue] at h
  | succ fuel =>
    unfold readValue at h
    split at h
    case h_5 | h_8 => cases noArray_readNumber _ _ _ h
    case h_6 hs => rw [hs, List.head?_cons]
    case h_7 =>
      repeat' split at h
      all_goals simp [object] at h
    all_goals simp at h

theorem head?_of_parse?_arr {s : String} {items : List Json} (h : parse? s = some (.arr items)) :
    (skipSpace s.toList).head? = some '[' := by
  unfold parse? parseWithin? at h
  dsimp only at h
  split at h
  · rename_i v r hread
    split at h
    · cases h
      exact head?_of_readValue hread
    · cases h
  · cases h

/-! ## Texts, written and read -/

theorem hexQuad?_digits {n : Nat} (h : n < 32) :
    hexQuad? '0' '0' (hexDigit (n / 16)) (hexDigit (n % 16)) = some n := by
  interval_cases n <;> rfl

theorem readString_unit {n : Nat} {a b c d : Char} (r : List Char)
    (h : hexQuad? a b c d = some n) (small : n < 0xD800) :
    readString ('\\' :: 'u' :: a :: b :: c :: d :: r)
      = (readString r).map fun p => (Char.ofNat n :: p.1, p.2) := by
  have leading : isLeading n = false := by simp [isLeading]; omega
  have trailing : isTrailing n = false := by simp [isTrailing]; omega
  rw [readString.eq_def]
  split
  case h_2 heq =>
    cases heq
    simp only [h, leading, trailing, Bool.false_eq_true, if_false]
  case h_3 heq =>
    cases heq
    simp only [h, leading, trailing, Bool.or_self, Bool.false_eq_true, if_false]
  case h_4 other heq =>
    cases heq
    exact (other a b c d r rfl rfl).elim
  case h_5 other heq =>
    cases heq
    exact (other 'u' _ rfl rfl).elim
  all_goals simp_all

theorem readString_plain {c : Char} (r : List Char) (quote : c ≠ '"') (backslash : c ≠ '\\')
    (printable : ¬ c.toNat < 0x20) :
    readString (c :: r) = (readString r).map fun p => (c :: p.1, p.2) := by
  rw [readString.eq_def]
  split
  case h_5 heq =>
    cases heq
    simp [backslash, printable]
  all_goals simp_all

theorem eq_ofNat {c : Char} {n : Nat} (h : c.toNat = n) : c = Char.ofNat n := by
  rw [← h, Char.ofNat_toNat]

theorem readString_escapeChar (c : Char) (r : List Char) :
    readString (escapeChar c ++ r) = (readString r).map fun p => (c :: p.1, p.2) := by
  unfold escapeChar
  split_ifs with h₁ h₂ h₃ h₄ h₅ h₆ h₇ h₈
  · subst h₁
    rfl
  · subst h₂
    rfl
  · rw [eq_ofNat h₃]
    rfl
  · rw [eq_ofNat h₄]
    rfl
  · rw [eq_ofNat h₅]
    rfl
  · rw [eq_ofNat h₆]
    rfl
  · rw [eq_ofNat h₇]
    rfl
  · refine (readString_unit r (hexQuad?_digits h₈) (by omega)).trans ?_
    rw [Char.ofNat_toNat]
  · exact readString_plain r h₁ h₂ h₈

theorem readString_quoted (s r : List Char) :
    readString (s.flatMap escapeChar ++ '"' :: r) = some (s, r) := by
  induction s with
  | nil => rfl
  | cons c s ih =>
    rw [List.flatMap_cons, List.append_assoc, readString_escapeChar, ih]
    rfl

theorem readValue_quote (fuel depth : Nat) (s : String) (r : List Char) :
    readValue (fuel + 1) depth ((quote s).toList ++ r) = some (.str s, r) := by
  have opened : (quote s).toList ++ r = '"' :: (s.toList.flatMap escapeChar ++ '"' :: r) := by
    simp [quote]
  rw [opened, readValue]
  show (readString _).map _ = _
  rw [readString_quoted, Option.map_some, String.ofList_toList]

/-- The items of an array, written and read up to the closing bracket. -/
theorem readItems_renderItems (depth : Nat) (r : List Char) :
    ∀ (l : List String) (fuel : Nat), l ≠ [] → l.length < fuel →
      readItems fuel depth ((renderItems (l.map .str)).toList ++ ']' :: r)
        = some (l.map .str, r)
  | [], _, h, _ => absurd rfl h
  | _, 0, _, h => absurd h (Nat.not_lt_zero _)
  | _, 1, _, h => by simp_all
  | [a], fuel + 2, _, _ => by
    rw [List.map_singleton, renderItems, render, readItems, readValue_quote]
    rfl
  | a :: b :: l, fuel + 2, _, h => by
    have ih := readItems_renderItems depth r (b :: l) (fuel + 1) (List.cons_ne_nil b l)
      (by simpa using h)
    have written : (renderItems ((a :: b :: l).map .str)).toList ++ ']' :: r
        = (quote a).toList ++ ',' :: ((renderItems ((b :: l).map .str)).toList ++ ']' :: r) := by
      simp [renderItems, render]
    rw [written, readItems, readValue_quote]
    show (readItems (fuel + 1) depth _).map _ = _
    rw [ih]
    rfl

theorem length_le_renderItems : ∀ l : List String,
    l.length ≤ (renderItems (l.map .str)).toList.length
  | [] => Nat.zero_le _
  | [a] => by simp [renderItems, render, quote]
  | a :: b :: l => by
    have ih := length_le_renderItems (b :: l)
    simp only [List.map_cons, renderItems, String.toList_append, List.length_append] at ih ⊢
    have comma : ",".toList.length = 1 := rfl
    rw [comma, List.length_cons]
    omega

theorem exists_renderItems_cons (a : String) (l : List String) :
    ∃ r, (renderItems ((a :: l).map .str)).toList = '"' :: r := by
  cases l with
  | nil => exact ⟨_, by simp [renderItems, render, quote]; rfl⟩
  | cons b l => exact ⟨_, by simp [renderItems, render, quote]; rfl⟩

/-- An array of texts is read from what is written for it. -/
theorem parse?_render_strings (l : List String) : parse? (strings l).render = some (strings l) := by
  cases l with
  | nil => decide
  | cons a l =>
    obtain ⟨r, hr⟩ := exists_renderItems_cons a l
    have chars : (strings (a :: l)).render.toList
        = '[' :: ((renderItems ((a :: l).map .str)).toList ++ [']']) := by
      simp [strings, render]
    have enough := length_le_renderItems (a :: l)
    have items := readItems_renderItems 126 [] (a :: l)
      (2 * (strings (a :: l)).render.toList.length + 1) (List.cons_ne_nil a l)
      (by simp only [chars, List.length_cons, List.length_append] at enough ⊢; omega)
    have read : readValue (2 * (strings (a :: l)).render.toList.length + 2) 127
        (strings (a :: l)).render.toList = some (strings (a :: l), []) := by
      rw [readValue]
      rw [chars] at items ⊢
      rw [hr] at items ⊢
      exact congrArg (Option.map fun p : List Json × List Char => (arr p.1, p.2)) items
    unfold parse? parseWithin? nestingLimit
    simp only [read]
    rfl

end Json

end Dialogue
