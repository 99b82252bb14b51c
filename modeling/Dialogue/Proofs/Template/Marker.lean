import Dialogue.Proofs.Template.Reading
import Dialogue.Proofs.Text.Pattern

/-!
# The pattern for placeholders

In the pattern for a placeholder (`marker`) two runs of blanks compete with the path between them:
the first takes as many blanks as leave a path, the path as few characters as leave only blanks. So
it finds the placeholder that begins a text, and keeps its path (`first?_marker`), and replacing its
matches comes to the same as reading the template from left to right (`resolve_scan`).
-/

namespace Dialogue

namespace Template

open Text

variable {scope : Json} {c : Char} {w r s t rest out : List Char}

/-- Two closing braces. -/
def braces : Pattern := .seq (.one (· == '}')) (.one (· == '}'))

/-- Blanks, and two closing braces. -/
def closing : Pattern := .seq (.most isBlank) braces

/-- A path, blanks, and two closing braces. -/
def pathAndClosing : Pattern := .seq (.group (.fewest fun c => !isBrace c)) closing

/-- Two opening braces, blanks, a path, blanks, and two closing braces. -/
def marker : Pattern :=
  .seq (.one (· == '{')) (.seq (.one (· == '{')) (.seq (.most isBlank) pathAndClosing))

/-! ## What the pattern finds -/

theorem isBlank_of_isBrace (h : isBrace c = true) : isBlank c = false := by
  simp only [isBrace, Bool.or_eq_true, beq_iff_eq] at h
  rcases h with rfl | rfl <;> decide

theorem first?_braces (s : List Char) :
    braces.first? s = (afterBraces? s).map fun rest => ⟨['}', '}'], none, rest⟩ := by
  match s with
  | [] => rfl
  | [c] => by_cases hc : c = '}' <;> simp [braces, Pattern.first?, Pattern.ways, afterBraces?, hc]
  | c :: d :: r =>
    by_cases hc : c = '}' <;> by_cases hd : d = '}' <;>
      simp [braces, Pattern.first?, Pattern.ways, Match.append, afterBraces?, hc, hd]

theorem first?_braces_of_inner (hc : isBrace c = false) : braces.first? (c :: r) = none :=
  Pattern.first?_one_seq_of_head _ fun d hd => by
    cases hd
    exact (Bool.or_eq_false_iff.1 hc).2

/-- The fewest characters, but at least one, behind which only blanks stand. -/
def fewestBefore : List Char → List Char
  | [] => []
  | c :: r => if r.all isBlank then [c] else c :: fewestBefore r

theorem fewestBefore_of_trimEndChars (h : trimEndChars w ≠ []) :
    fewestBefore w = trimEndChars w := by
  induction w with
  | nil => rfl
  | cons c r ih =>
    rw [trimEndChars_cons] at h ⊢
    rw [fewestBefore]
    split
    · rename_i hr
      rw [if_pos hr] at h
      have hc : isBlank c = false := by
        by_contra hc
        exact h (trimEndChars_eq_nil_iff.2 (by simpa using hc))
      exact (List.rdropWhile_concat_neg isBlank [] c (by simp [hc])).symm
    · rename_i hr
      refine congrArg (c :: ·) (ih ?_)
      rw [ne_eq, trimEndChars_eq_nil_iff]
      simpa using hr

theorem path_of_not_blank (hc : isBlank c = false) : path (c :: r) = fewestBefore (c :: r) := by
  have start : trimChars (c :: r) = trimEndChars (c :: r) := by
    rw [trimChars, trimStartChars, List.dropWhile_cons_of_neg (by simp [hc])]
  have some : trimEndChars (c :: r) ≠ [] := by
    rw [ne_eq, trimEndChars_eq_nil_iff]
    exact fun h => by simp [hc] at h
  rw [path, start, if_neg (by simpa using some), fewestBefore_of_trimEndChars some]

theorem path_of_blank (hc : isBlank c = true) (hr : r ≠ []) : path (c :: r) = path r := by
  obtain ⟨d, r, rfl⟩ := List.exists_cons_of_ne_nil hr
  rw [path, path, trimChars_cons_of_blank hc, List.getLast?_cons_cons]

theorem path_singleton (hc : isBlank c = true) : path [c] = [c] := by
  rw [path, trimChars_eq_nil_iff.2 (by simpa using hc)]
  rfl

/-- What comes of a group that takes some characters more than those in `front`. -/
def closed? (front : List Char) (x : Match) : Option Match :=
  (closing.first? x.rest).map (Match.append ⟨front ++ x.text, some (front ++ x.text), x.rest⟩)

theorem closed?_comp_cons (front : List Char) (c : Char) :
    closed? front ∘ Match.cons c = closed? (front ++ [c]) := by
  funext x
  simp [closed?, Match.cons]

section Split

variable (hw : ∀ c ∈ w, isBrace c = false) (ht : ∀ c, t.head? = some c → isBrace c = true)
include hw ht

theorem first?_closing : closing.first? (w ++ t) = if w.all isBlank then
    (afterBraces? t).map fun rest => ⟨w ++ ['}', '}'], none, rest⟩ else none := by
  induction w with
  | nil =>
    rw [closing, List.nil_append,
      Pattern.first?_most_seq_of_head _ fun c hc => isBlank_of_isBrace (ht c hc), first?_braces,
      Option.map_map]
    rfl
  | cons c r ih =>
    have ih := ih fun d hd => hw d (List.mem_cons_of_mem c hd)
    have unclosed : braces.first? (c :: (r ++ t)) = none :=
      first?_braces_of_inner (hw c List.mem_cons_self)
    rw [List.cons_append, List.all_cons]
    cases hc : isBlank c with
    | true =>
      rw [closing, Pattern.first?_most_seq_cons _ hc, unclosed, Option.map_none, Option.or_none,
        ← closing, ih, Bool.true_and]
      split
      · rw [Option.map_map]
        rfl
      · rfl
    | false =>
      rw [closing, Pattern.first?_most_seq_of_head _ (by simpa using hc), unclosed]
      rfl

/-- The group goes on, behind what it has taken, until only blanks are left. -/
theorem findSome?_closed? (front : List Char) :
    (Pattern.fewestWays (fun c => !isBrace c) (w ++ t)).findSome? (closed? front)
      = if w = [] then none else (afterBraces? t).map fun rest =>
          ⟨front ++ (w ++ ['}', '}']), some (front ++ fewestBefore w), rest⟩ := by
  induction w generalizing front with
  | nil =>
    cases t with
    | nil => rfl
    | cons c t =>
      rw [List.nil_append, Pattern.fewestWays, if_neg (by simp [ht c rfl])]
      rfl
  | cons c r ih =>
    have hr : ∀ d ∈ r, isBrace d = false := fun d hd => hw d (List.mem_cons_of_mem c hd)
    rw [List.cons_append, Pattern.findSome?_fewestWays_cons (by simp [hw c List.mem_cons_self]),
      closed?_comp_cons, ih hr, closed?, first?_closing hr ht, fewestBefore,
      if_neg (List.cons_ne_nil c r)]
    cases afterBraces? t with
    | none => simp
    | some rest =>
      by_cases blank : r.all isBlank = true
      · rw [if_pos blank, if_pos blank]
        simp [Match.append]
      · have hne : r ≠ [] := by
          rintro rfl
          exact blank rfl
        rw [if_neg blank, if_neg blank, if_neg hne]
        simp

theorem first?_pathAndClosing : pathAndClosing.first? (w ++ t)
    = if w = [] then none else (afterBraces? t).map fun rest =>
        ⟨w ++ ['}', '}'], some (fewestBefore w), rest⟩ := by
  rw [pathAndClosing, Pattern.first?_group_seq]
  exact findSome?_closed? hw ht []

/-- The first blanks are as many as leave a path. -/
theorem first?_blanks : (Pattern.seq (.most isBlank) pathAndClosing).first? (w ++ t)
    = if w = [] then none else (afterBraces? t).map fun rest =>
        ⟨w ++ ['}', '}'], some (path w), rest⟩ := by
  induction w with
  | nil =>
    have pathless := first?_pathAndClosing hw ht
    rw [List.nil_append] at pathless ⊢
    rw [Pattern.first?_most_seq_of_head _ fun c hc => isBlank_of_isBrace (ht c hc), pathless]
    rfl
  | cons c r ih =>
    have hr : ∀ d ∈ r, isBrace d = false := fun d hd => hw d (List.mem_cons_of_mem c hd)
    have whole := first?_pathAndClosing hw ht
    rw [List.cons_append] at whole ⊢
    cases hc : isBlank c with
    | true =>
      rw [Pattern.first?_most_seq_cons _ hc, ih hr, whole]
      cases afterBraces? t with
      | none => simp
      | some rest =>
        by_cases hne : r = []
        · subst hne
          rw [path_singleton hc]
          rfl
        · rw [if_neg hne, if_neg (List.cons_ne_nil c r), path_of_blank hc hne]
          rfl
    | false =>
      rw [Pattern.first?_most_seq_of_head _ (by simpa using hc), whole, path_of_not_blank hc]
      simp [Match.append, Function.comp_def]

end Split

theorem first?_marker_of_not_opened (h : ∀ r, s ≠ '{' :: '{' :: r) : marker.first? s = none := by
  cases s with
  | nil => rfl
  | cons c r =>
    by_cases hc : c = '{'
    · subst hc
      rw [marker, Pattern.first?_one_seq_cons _ (by decide), Pattern.first?_one_seq_of_head]
      · rfl
      · intro d hd
        obtain ⟨r, rfl⟩ := List.head?_eq_some_iff.1 hd
        simpa using h r
    · exact Pattern.first?_one_seq_of_head _ (by simpa using hc)

/-- The pattern finds the placeholder that begins a text, and its group keeps the path. -/
theorem first?_marker (s : List Char) : marker.first? s
    = (placeholder? s).map fun x => ⟨marked x.1, some (path x.1), x.2⟩ := by
  by_cases opened : ∃ r, s = '{' :: '{' :: r
  · obtain ⟨r, rfl⟩ := opened
    obtain ⟨w, t, rfl, hw, ht⟩ := exists_split r
    rw [marker, Pattern.first?_one_seq_cons _ (by decide),
      Pattern.first?_one_seq_cons _ (by decide), first?_blanks hw ht, placeholder?_append hw ht]
    split
    · rfl
    · simp [Match.append, Function.comp_def, marked]
  · have none : placeholder? s = none :=
      Option.eq_none_iff_forall_ne_some.2 fun x hx => opened (opened_of_placeholder? hx)
    rw [first?_marker_of_not_opened fun r hr => opened ⟨r, hr⟩, none]
    rfl

/-! ## Replacing every match -/

/-- What stands for a match: the text at the path that its group keeps. -/
def replacement (scope : Json) (m : Match) : List Char :=
  (textAt scope (String.ofList (m.group.getD []))).toList

theorem search?_of_placeholder (h : placeholder? (c :: r) = some (w, rest)) :
    marker.search? (c :: r) = some ([], ⟨marked w, some (path w), rest⟩) := by
  rw [Pattern.search?, first?_marker, h]
  rfl

theorem search?_of_none (h : placeholder? (c :: r) = none) :
    marker.search? (c :: r) = (marker.search? r).map fun x => (c :: x.1, x.2) := by
  rw [Pattern.search?, first?_marker, h]
  rfl

theorem resolveChars_of_search?_none (h : marker.search? s = none) : resolveChars scope s = s := by
  induction s with
  | nil => rw [resolveChars]
  | cons c r ih =>
    cases hp : placeholder? (c :: r) with
    | some x =>
      rw [search?_of_placeholder hp] at h
      cases h
    | none =>
      rw [search?_of_none hp, Option.map_eq_none_iff] at h
      rw [resolveChars_of_none scope hp, ih h]

variable (scope) in
/-- The first match is replaced, and what is left behind it is shorter. -/
theorem resolveChars_of_search? {before : List Char} {m : Match}
    (h : marker.search? s = some (before, m)) : m.rest.length < s.length
      ∧ resolveChars scope s = before ++ replacement scope m ++ resolveChars scope m.rest := by
  induction s generalizing before with
  | nil => cases h
  | cons c r ih =>
    cases hp : placeholder? (c :: r) with
    | some x =>
      rw [search?_of_placeholder hp, Option.some.injEq, Prod.mk.injEq] at h
      obtain ⟨rfl, rfl⟩ := h
      refine ⟨length_placeholder?_lt hp, ?_⟩
      rw [resolveChars_of_placeholder scope hp, substitute_eq, List.nil_append, replacement,
        Option.getD_some]
    | none =>
      rw [search?_of_none hp, Option.map_eq_some_iff] at h
      obtain ⟨⟨front, m'⟩, hr, e⟩ := h
      rw [Prod.mk.injEq] at e
      obtain ⟨rfl, rfl⟩ := e
      obtain ⟨shorter, replaced⟩ := ih hr
      exact ⟨Nat.lt_succ_of_lt shorter,
        (resolveChars_of_none scope hp).trans (congrArg (c :: ·) replaced)⟩

theorem replaced_iff : marker.Replaced (replacement scope) s out ↔ out = resolveChars scope s := by
  constructor
  · intro h
    induction h with
    | rest h => exact (resolveChars_of_search?_none h).symm
    | next h _ ih => rw [ih, (resolveChars_of_search? scope h).2]
  · rintro rfl
    induction h : s.length using Nat.strong_induction_on generalizing s with
    | _ n ih =>
      subst h
      cases hs : marker.search? s with
      | none =>
        rw [resolveChars_of_search?_none hs]
        exact .rest hs
      | some x =>
        obtain ⟨shorter, replaced⟩ := resolveChars_of_search? scope hs
        rw [replaced]
        exact .next hs (ih _ shorter rfl)

/-- A text without two opening braces in a row holds no placeholder. -/
theorem resolveChars_of_not_contains (h : contains ['{', '{'] s = false) :
    resolveChars scope s = s := by
  induction s with
  | nil => rw [resolveChars]
  | cons c r ih =>
    rw [contains, Bool.or_eq_false_iff] at h
    have none : placeholder? (c :: r) = none :=
      Option.eq_none_iff_forall_ne_some.2 fun x hx => by
        obtain ⟨r', e⟩ := opened_of_placeholder? hx
        cases e
        simp at h
    rw [resolveChars_of_none scope none, ih h.2]

/-- The text that comes of a template: where there are two opening braces in a row, every match of
the pattern is replaced. -/
def Substituted (scope : Json) (template out : String) : Prop :=
  if contains ['{', '{'] template.toList
  then marker.Replaced (replacement scope) template.toList out.toList
  else out = template

/-- A template has one reading, whatever the values are. Resolving puts the text at its path in
place of each placeholder of that and leaves every other character, and so does replacing every
match of the pattern. -/
theorem resolve_scan (template : String) : ∃ pieces, (∀ ps, Reads template.toList ps ↔ ps = pieces)
    ∧ pieces.flatMap Piece.source = template.toList
    ∧ ∀ scope, (resolve template scope).toList = pieces.flatMap (Piece.text scope)
      ∧ ∀ out, Substituted scope template out ↔ out = resolve template scope := by
  obtain ⟨pieces, reads⟩ := exists_reads template.toList
  refine ⟨pieces, fun ps => ⟨reads.unique, fun e => e ▸ reads⟩, reads.source, fun scope => ?_⟩
  refine ⟨by rw [resolve, String.toList_ofList, reads.resolveChars_eq], fun out => ?_⟩
  unfold Substituted resolve
  split
  · rw [replaced_iff, ← String.toList_inj, String.toList_ofList]
  · rename_i h
    rw [resolveChars_of_not_contains (by simpa using h), String.ofList_toList]

end Template

end Dialogue
