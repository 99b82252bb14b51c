import Mathlib.Data.List.DropRight
import Dialogue.Text.Blank

/-!
# What is dropped at the ends of a text

Dropping the characters of a class at both ends leaves a text that neither begins nor ends with one
(`dropBoth_padded`). Where blanks at the ends make no difference, trimming makes none
(`apply_trimChars`).
-/

namespace Dialogue

namespace Text

variable {c : Char} {s : List Char}

theorem fields_eq_splitOnP (sep : Char → Bool) (s : List Char) : fields sep s = s.splitOnP sep := by
  induction s with
  | nil => rfl
  | cons c r ih =>
    rw [fields, ih, List.splitOnP_cons_eq_if_modifyHead]
    by_cases hc : sep c = true
    · rw [if_pos hc, if_pos hc]
    · rw [if_neg hc, if_neg hc]
      cases hr : r.splitOnP sep with
      | nil => exact absurd hr (List.splitOnP_ne_nil sep r)
      | cons f fs => rfl

theorem trimStartChars_cons_of_blank (hc : isBlank c = true) :
    trimStartChars (c :: s) = trimStartChars s := List.dropWhile_cons_of_pos hc

theorem trimEndChars_concat_of_blank (hc : isBlank c = true) :
    trimEndChars (s ++ [c]) = trimEndChars s := by
  rw [trimEndChars, List.reverse_append, List.reverse_singleton, List.singleton_append,
    List.dropWhile_cons_of_pos hc]
  rfl

theorem trimChars_cons_of_blank (hc : isBlank c = true) : trimChars (c :: s) = trimChars s :=
  congrArg trimEndChars (trimStartChars_cons_of_blank hc)

theorem trimChars_concat_of_blank (hc : isBlank c = true) :
    trimChars (s ++ [c]) = trimChars s := by
  unfold trimChars trimStartChars
  rw [List.dropWhile_append]
  split
  · rename_i hs
    rw [List.isEmpty_iff.1 hs, List.dropWhile_cons_of_pos hc, List.dropWhile_nil]
  · exact trimEndChars_concat_of_blank hc

/-- What does not notice a blank at either end does not notice that a text is trimmed. -/
theorem apply_trimChars {α : Type} {f : List Char → α}
    (front : ∀ c s, isBlank c = true → f (c :: s) = f s)
    (back : ∀ c s, isBlank c = true → f (s ++ [c]) = f s) (s : List Char) :
    f (trimChars s) = f s := by
  have start : ∀ s, f (trimStartChars s) = f s := by
    intro s
    induction s with
    | nil => rfl
    | cons c r ih =>
      by_cases hc : isBlank c = true
      · rw [trimStartChars_cons_of_blank hc, ih, front c r hc]
      · rw [trimStartChars, List.dropWhile_cons_of_neg hc]
  have finish : ∀ s : List Char, f (s.reverse.dropWhile isBlank).reverse = f s := by
    intro s
    rw [← List.reverse_reverse s]
    generalize s.reverse = r
    rw [List.reverse_reverse]
    induction r with
    | nil => rfl
    | cons c r ih =>
      by_cases hc : isBlank c = true
      · rw [List.dropWhile_cons_of_pos hc, ih, List.reverse_cons, back c _ hc]
      · rw [List.dropWhile_cons_of_neg hc]
  exact (finish _).trans (start s)

/-! ## Texts between what is dropped -/

variable {p q : Char → Bool} {front back : List Char}

/-- A text that neither begins nor ends with a character of a class. -/
structure Bare (p : Char → Bool) (s : List Char) : Prop where
  head : ∀ c, s.head? = some c → p c = false
  last : ∀ c, s.getLast? = some c → p c = false

theorem Bare.mono (bare : Bare p s) (h : ∀ c, q c = true → p c = true) : Bare q s where
  head c hc := Bool.eq_false_iff.2 fun hq => Bool.eq_false_iff.1 (bare.head c hc) (h c hq)
  last c hc := Bool.eq_false_iff.2 fun hq => Bool.eq_false_iff.1 (bare.last c hc) (h c hq)

theorem Bare.pad (bare : Bare p s) (hne : s ≠ []) (hc : p c = false) (m n : Nat) :
    Bare p (List.replicate m c ++ s ++ List.replicate n c) where
  head d hd := by
    obtain ⟨e, r, rfl⟩ := List.exists_cons_of_ne_nil hne
    cases m with
    | zero => exact bare.head d hd
    | succ m =>
      cases hd
      exact hc
  last d hd := by
    rw [List.getLast?_append, List.getLast?_replicate] at hd
    cases n with
    | zero =>
      rw [if_pos rfl, Option.none_or, List.getLast?_append, List.getLast?_eq_some_getLast hne,
        Option.some_or] at hd
      exact bare.last d ((List.getLast?_eq_some_getLast hne).trans hd)
    | succ n =>
      cases hd
      exact hc

theorem dropWhile_eq_self (h : ∀ c, s.head? = some c → p c = false) : s.dropWhile p = s := by
  cases s with
  | nil => rfl
  | cons c r => exact List.dropWhile_cons_of_neg (by simp [h c rfl])

/-- What stops in a text, or ends with it, stops at the same place when something follows. -/
theorem takeWhile_append_of_stops {u : List Char}
    (stops : s.dropWhile p = [] → ∀ c, u.head? = some c → p c = false) :
    (s ++ u).takeWhile p = s.takeWhile p ∧ (s ++ u).dropWhile p = s.dropWhile p ++ u := by
  have parts := List.takeWhile_append_dropWhile (p := p) (l := s)
  cases ends : s.dropWhile p with
  | nil =>
    rw [ends, List.append_nil] at parts
    have here : u.takeWhile p = [] := by
      cases u with
      | nil => rfl
      | cons c u => exact List.takeWhile_cons_of_neg (by simp [stops ends c rfl])
    rw [List.takeWhile_append, List.dropWhile_append, ends, parts, if_pos rfl, here,
      List.append_nil]
    exact ⟨rfl, dropWhile_eq_self (stops ends)⟩
  | cons c r =>
    have longer := congrArg List.length parts
    rw [ends, List.length_append, List.length_cons] at longer
    rw [List.takeWhile_append, List.dropWhile_append, ends, if_neg (by omega)]
    exact ⟨rfl, rfl⟩

theorem dropEnd_padded (hback : ∀ c ∈ back, p c = true)
    (last : ∀ c, s.getLast? = some c → p c = false) :
    ((s ++ back).reverse.dropWhile p).reverse = s := by
  rw [List.reverse_append, List.dropWhile_append_of_pos (by simpa using hback),
    dropWhile_eq_self (by simpa using last), List.reverse_reverse]

/-- What is dropped at both ends goes, and no more of a text that is bare of it. -/
theorem dropBoth_padded (hfront : ∀ c ∈ front, p c = true) (hback : ∀ c ∈ back, p c = true)
    (hne : s ≠ []) (bare : Bare p s) :
    (((front ++ s ++ back).dropWhile p).reverse.dropWhile p).reverse = s := by
  have begins : ∀ c, (s ++ back).head? = some c → p c = false := by
    obtain ⟨d, r, rfl⟩ := List.exists_cons_of_ne_nil hne
    exact bare.head
  rw [List.append_assoc, List.dropWhile_append_of_pos hfront, dropWhile_eq_self begins,
    dropEnd_padded hback bare.last]

theorem trimEndChars_of_last (last : ∀ c, s.getLast? = some c → isBlank c = false) :
    trimEndChars s = s := by
  rw [trimEndChars, dropWhile_eq_self (by simpa using last), List.reverse_reverse]

theorem trimChars_of_last (last : ∀ c, s.getLast? = some c → isBlank c = false) :
    trimChars s = trimStartChars s := by
  have ends : ∀ c, (s.dropWhile isBlank).getLast? = some c → isBlank c = false := by
    intro c hc
    refine last c ?_
    rw [← List.takeWhile_append_dropWhile (p := isBlank) (l := s), List.getLast?_append, hc]
    rfl
  exact trimEndChars_of_last ends

theorem trimChars_of_bare {s : List Char} (bare : Bare isBlank s) : trimChars s = s :=
  (trimChars_of_last bare.last).trans (dropWhile_eq_self bare.head)

theorem head_trimChars (s : List Char) :
    ∀ c, (trimChars s).head? = some c → isBlank c = false := by
  intro c hc
  obtain ⟨r, hr⟩ : trimChars s <+: s.dropWhile isBlank :=
    List.reverse_suffix.1 (by
      rw [trimChars, trimEndChars, List.reverse_reverse]
      exact List.dropWhile_suffix isBlank)
  have begins := List.head?_dropWhile_not isBlank s
  rw [← hr, List.head?_append, hc] at begins
  exact begins

theorem last_trimChars (s : List Char) :
    ∀ c, (trimChars s).getLast? = some c → isBlank c = false := by
  intro c hc
  rw [trimChars, trimEndChars, List.getLast?_reverse] at hc
  have ends := List.head?_dropWhile_not isBlank (trimStartChars s).reverse
  rw [hc] at ends
  simpa using ends

/-! ## What trimming leaves -/

theorem trimEndChars_eq_nil_iff : trimEndChars s = [] ↔ ∀ c ∈ s, isBlank c = true :=
  List.rdropWhile_eq_nil_iff

theorem trimChars_eq_nil_iff : trimChars s = [] ↔ ∀ c ∈ s, isBlank c = true := by
  refine trimEndChars_eq_nil_iff.trans ⟨fun h => ?_, fun h c hc => h c ?_⟩
  · have begins := List.head?_dropWhile_not isBlank s
    cases hs : trimStartChars s with
    | nil => exact List.dropWhile_eq_nil_iff.1 hs
    | cons c r =>
      rw [show s.dropWhile isBlank = c :: r from hs, List.head?_cons] at begins
      have blank := h c (hs ▸ List.mem_cons_self)
      simp [blank] at begins
  · exact (List.dropWhile_sublist _).mem hc

theorem trimEndChars_cons (c : Char) (s : List Char) : trimEndChars (c :: s)
    = if s.all isBlank then trimEndChars [c] else c :: trimEndChars s := by
  have blank : (s.reverse.dropWhile isBlank).isEmpty = s.all isBlank := by
    rw [Bool.eq_iff_iff, List.isEmpty_iff, List.dropWhile_eq_nil_iff, List.all_eq_true]
    simp only [List.mem_reverse]
  rw [trimEndChars, List.reverse_cons, List.dropWhile_append, blank]
  split
  · rfl
  · rw [List.reverse_append]
    rfl

theorem trimEndChars_append_cons {c : Char} (hc : isBlank c = false) (s t : List Char) :
    trimEndChars (s ++ c :: t) = s ++ c :: trimEndChars t := by
  unfold trimEndChars
  rw [List.reverse_append, List.reverse_cons, List.append_assoc,
    (takeWhile_append_of_stops fun _ d hd => by cases hd; exact hc).2]
  simp

theorem trimChars_append_cons {c : Char} (hc : isBlank c = false)
    (last : ∀ c, s.getLast? = some c → isBlank c = false) (t : List Char) :
    trimChars (s ++ c :: t) = trimChars s ++ c :: trimEndChars t := by
  rw [trimChars_of_last last, ← trimEndChars_append_cons hc]
  exact congrArg trimEndChars
    (takeWhile_append_of_stops fun _ d hd => by cases hd; exact hc).2

theorem trimChars_trimChars (s : List Char) : trimChars (trimChars s) = trimChars s :=
  trimChars_of_bare ⟨head_trimChars s, last_trimChars s⟩

/-- A text is what trimming leaves of it between blanks. -/
theorem exists_padding (s : List Char) : ∃ front back, (∀ c ∈ front, isBlank c = true)
    ∧ (∀ c ∈ back, isBlank c = true) ∧ s = front ++ trimChars s ++ back := by
  refine ⟨s.takeWhile isBlank, ((trimStartChars s).reverse.takeWhile isBlank).reverse,
    fun c hc => List.mem_takeWhile_imp hc,
    fun c hc => List.mem_takeWhile_imp (List.mem_reverse.1 hc), ?_⟩
  rw [List.append_assoc, trimChars, trimEndChars, ← List.reverse_append,
    List.takeWhile_append_dropWhile, List.reverse_reverse]
  exact List.takeWhile_append_dropWhile.symm

end Text

end Dialogue
