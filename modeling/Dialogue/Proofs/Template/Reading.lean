import Dialogue.Proofs.Text.Trimming
import Dialogue.Template

/-!
# Reading a template

A template is read from left to right into pieces: a placeholder, that is a text without braces
between two opening and two closing ones, wherever one begins, and else one character (`Reads`).
Every text has one reading, and it does not hang on the values there are. Resolving puts a text in
place of each placeholder and leaves every other character as it is, so what was put in is not read
again (`Reads.resolveChars_eq`).
-/

namespace Dialogue

namespace Template

open Text

variable {scope : Json} {c : Char} {w r s t rest : List Char}

/-! ## Placeholders -/

/-- What may stand between the braces. -/
def Inner (w : List Char) : Prop := w ≠ [] ∧ ∀ c ∈ w, isBrace c = false

/-- A text between the braces of a placeholder. -/
def marked (w : List Char) : List Char := '{' :: '{' :: (w ++ ['}', '}'])

/-- What follows two closing braces. -/
def afterBraces? : List Char → Option (List Char)
  | '}' :: '}' :: rest => some rest
  | _ => none

/-- A text up to its first brace, and from there on. -/
theorem exists_split (r : List Char) : ∃ w t, r = w ++ t ∧ (∀ c ∈ w, isBrace c = false)
    ∧ (∀ c, t.head? = some c → isBrace c = true) := by
  refine ⟨r.takeWhile fun c => !isBrace c, r.dropWhile fun c => !isBrace c,
    List.takeWhile_append_dropWhile.symm, fun c hc => ?_, fun c hc => ?_⟩
  · simpa using List.mem_takeWhile_imp hc
  · have begins := List.head?_dropWhile_not (fun c => !isBrace c) r
    rw [hc] at begins
    simpa using begins

theorem placeholder?_append (hw : ∀ c ∈ w, isBrace c = false)
    (ht : ∀ c, t.head? = some c → isBrace c = true) :
    placeholder? ('{' :: '{' :: (w ++ t))
      = if w = [] then none else (afterBraces? t).map fun rest => (w, rest) := by
  have plain : ∀ c ∈ w, (!isBrace c) = true := by simpa using hw
  have taken : (w ++ t).takeWhile (fun c => !isBrace c) = w := by
    rw [List.takeWhile_append_of_pos plain]
    cases t with
    | nil => rw [List.takeWhile_nil, List.append_nil]
    | cons c t => rw [List.takeWhile_cons_of_neg (by simp [ht c rfl]), List.append_nil]
  have left : (w ++ t).dropWhile (fun c => !isBrace c) = t := by
    rw [List.dropWhile_append_of_pos plain]
    exact dropWhile_eq_self (by simpa using ht)
  unfold placeholder? afterBraces?
  simp only [taken, left, List.isEmpty_iff]
  split <;> simp

theorem opened_of_placeholder? {x : List Char × List Char} (h : placeholder? s = some x) :
    ∃ r, s = '{' :: '{' :: r := by
  unfold placeholder? at h
  split at h
  · exact ⟨_, rfl⟩
  · cases h

theorem afterBraces?_eq_some_iff : afterBraces? s = some rest ↔ s = '}' :: '}' :: rest := by
  unfold afterBraces?
  split
  · simp
  · rename_i other
    simpa using other rest

theorem placeholder?_eq_some_iff :
    placeholder? s = some (w, rest) ↔ Inner w ∧ s = marked w ++ rest := by
  constructor
  · intro h
    obtain ⟨r, rfl⟩ := opened_of_placeholder? h
    obtain ⟨w', t, rfl, hw, ht⟩ := exists_split r
    rw [placeholder?_append hw ht] at h
    split at h
    · cases h
    · rename_i hne
      obtain ⟨rest', closed, e⟩ := Option.map_eq_some_iff.1 h
      cases e
      exact ⟨⟨hne, hw⟩, by simp [marked, afterBraces?_eq_some_iff.1 closed]⟩
  · rintro ⟨⟨hne, hw⟩, rfl⟩
    have shape : marked w ++ rest = '{' :: '{' :: (w ++ '}' :: '}' :: rest) := by simp [marked]
    rw [shape, placeholder?_append hw (by simp [isBrace]), if_neg hne]
    rfl

/-- No placeholder begins a text. -/
theorem placeholder?_eq_none_iff :
    placeholder? s = none ↔ ∀ w rest, Inner w → s ≠ marked w ++ rest := by
  rw [Option.eq_none_iff_forall_ne_some]
  constructor
  · exact fun h w rest hw e => h (w, rest) (placeholder?_eq_some_iff.2 ⟨hw, e⟩)
  · rintro h ⟨w, rest⟩ e
    obtain ⟨hw, e⟩ := placeholder?_eq_some_iff.1 e
    exact h w rest hw e

theorem resolveChars_of_placeholder (scope : Json) (h : placeholder? s = some (w, rest)) :
    resolveChars scope s = substitute scope w ++ resolveChars scope rest := by
  cases s with
  | nil => simp [placeholder?] at h
  | cons c r =>
    rw [resolveChars]
    split
    · rename_i w' rest' h'
      rw [h] at h'
      cases h'
      rfl
    · rename_i h'
      simp [h] at h'

theorem resolveChars_of_none (scope : Json) (h : placeholder? (c :: r) = none) :
    resolveChars scope (c :: r) = c :: resolveChars scope r := by
  rw [resolveChars]
  split
  · rename_i h'
    simp [h] at h'
  · rfl

/-! ## The value of a placeholder -/

theorem lookup?_trimChars (w : List Char) :
    scope.lookup? (String.ofList (trimChars w)) = scope.lookup? (String.ofList w) := by
  simp only [Json.lookup?, JsonPath.parse?, String.toList_ofList, JsonPath.parseChars?,
    trimChars_trimChars]

theorem trimChars_path (w : List Char) : trimChars (path w) = trimChars w := by
  unfold path
  split
  · rename_i h
    rw [List.isEmpty_iff] at h
    rw [h, trimChars_eq_nil_iff]
    exact fun c hc => trimChars_eq_nil_iff.1 h c (List.mem_of_getLast? (by simpa using hc))
  · exact trimChars_trimChars w

/-- The text at a path: empty where there is no value. -/
def textAt (scope : Json) (path : String) : String := (scope.lookup? path).elim "" valueText

theorem substitute_eq (scope : Json) (w : List Char) :
    substitute scope w = (textAt scope (String.ofList (path w))).toList := by
  unfold substitute textAt
  cases scope.lookup? (String.ofList (path w)) <;> rfl

/-- The last of nothing but blanks leads nowhere, as a path that is missing does. -/
theorem textAt_path (scope : Json) (w : List Char) :
    textAt scope (String.ofList (path w)) = textAt scope (trim (String.ofList w)) := by
  unfold textAt trim
  rw [String.toList_ofList, ← trimChars_path, lookup?_trimChars]

/-! ## Pieces -/

/-- A piece of a template. -/
inductive Piece where
  | char (c : Char)
  | slot (inner : List Char)

namespace Piece

/-- What a piece is in the template. -/
def source : Piece → List Char
  | char c => [c]
  | slot w => marked w

/-- What becomes of a piece. -/
def text (scope : Json) : Piece → List Char
  | char c => [c]
  | slot w => (textAt scope (trim (String.ofList w))).toList

end Piece

/-- A text read from left to right: a placeholder wherever one begins, else a character. -/
inductive Reads : List Char → List Piece → Prop
  | done : Reads [] []
  | slot {w rest : List Char} {ps : List Piece} : Inner w → Reads rest ps →
    Reads (marked w ++ rest) (.slot w :: ps)
  | char {c : Char} {r : List Char} {ps : List Piece} :
    (∀ w rest, Inner w → c :: r ≠ marked w ++ rest) → Reads r ps → Reads (c :: r) (.char c :: ps)

theorem exists_reads (s : List Char) : ∃ ps, Reads s ps := by
  induction h : s.length using Nat.strong_induction_on generalizing s with
  | _ n ih =>
    subst h
    cases s with
    | nil => exact ⟨[], .done⟩
    | cons c r =>
      cases hp : placeholder? (c :: r) with
      | some x =>
        obtain ⟨hw, e⟩ := placeholder?_eq_some_iff.1 (show _ = some (x.1, x.2) from hp)
        obtain ⟨ps, hps⟩ := ih _ (length_placeholder?_lt hp) _ rfl
        exact ⟨_, e.symm ▸ Reads.slot hw hps⟩
      | none =>
        obtain ⟨ps, hps⟩ := ih r.length (Nat.lt_succ_self _) r rfl
        exact ⟨_, .char (placeholder?_eq_none_iff.1 hp) hps⟩

theorem Reads.unique {ps qs : List Piece} (hp : Reads s ps) (hq : Reads s qs) : qs = ps := by
  induction hp generalizing qs with
  | done => cases hq; rfl
  | @slot w rest ps hw _ ih =>
    generalize hs : marked w ++ rest = s at hq
    have here := placeholder?_eq_some_iff.2 ⟨hw, hs.symm⟩
    cases hq with
    | done => cases hs
    | @slot w' rest' qs hw' hq =>
      rw [placeholder?_eq_some_iff.2 ⟨hw', rfl⟩] at here
      cases here
      rw [ih hq]
    | char none => exact absurd hs.symm (none w rest hw)
  | @char c r ps none _ ih =>
    generalize hs : c :: r = s at hq
    cases hq with
    | done => cases hs
    | slot hw => exact absurd hs (none _ _ hw)
    | char _ hq =>
      cases hs
      rw [ih hq]

theorem Reads.source {ps : List Piece} (h : Reads s ps) : ps.flatMap Piece.source = s := by
  induction h with
  | done => rfl
  | slot _ _ ih => rw [List.flatMap_cons, ih]; rfl
  | char _ _ ih => rw [List.flatMap_cons, ih]; rfl

theorem Reads.resolveChars_eq {ps : List Piece} (h : Reads s ps) (scope : Json) :
    resolveChars scope s = ps.flatMap (Piece.text scope) := by
  induction h with
  | done => rw [resolveChars]; rfl
  | @slot w rest ps hw _ ih =>
    rw [resolveChars_of_placeholder scope (placeholder?_eq_some_iff.2 ⟨hw, rfl⟩), ih,
      List.flatMap_cons, substitute_eq, textAt_path]
    rfl
  | char none _ ih =>
    rw [resolveChars_of_none scope (placeholder?_eq_none_iff.2 none), ih, List.flatMap_cons]
    rfl

end Template

end Dialogue
