import Dialogue.Json.Path
import Dialogue.Proofs.Text.Digits
import Dialogue.Proofs.Text.Trimming

/-!
# Paths that are joined

A path followed by a point and another path is read as the steps of the one and then those of the
other, and so is a path followed by a bracket (`parseChars?_point`, `parseChars?_bracket`). What was
read is not read otherwise for what follows: a bracket is closed where it was, and a bare key ends
where the next step begins (`readSteps?_append`). So a joined path leads where the second one leads
from what the first one reaches, and an index may be written either way (`joined_leads_on`).
-/

namespace Dialogue

namespace JsonPath

open Text

variable {s t u after raw rest : List Char} {steps a b : List Segment}

/-! ## Brackets -/

theorem splitAt?_append_right {c : Char} (h : splitAt? c s = some (raw, after)) (u : List Char) :
    splitAt? c (s ++ u) = some (raw, after ++ u) := by
  induction s generalizing raw with
  | nil => cases h
  | cons d s ih =>
    rw [List.cons_append, splitAt?]
    rw [splitAt?] at h
    split at h
    · rename_i here
      cases h
      rw [if_pos here]
    · rename_i other
      obtain ⟨⟨x, y⟩, hxy, e⟩ := Option.map_eq_some_iff.1 h
      cases e
      rw [if_neg other, ih hxy]
      rfl

/-- A bracket is closed at the same place, whatever follows. -/
theorem closeBracket?_append (h : closeBracket? s = some (raw, after)) (u : List Char) :
    closeBracket? (s ++ u) = some (raw, after ++ u) := by
  unfold closeBracket? at h ⊢
  cases hs : trimStartChars s with
  | nil =>
    rw [hs] at h
    cases h
  | cons q r =>
    have stops : s.dropWhile isBlank ≠ [] := ne_of_eq_of_ne hs (List.cons_ne_nil q r)
    obtain ⟨blanks, text⟩ := takeWhile_append_of_stops (u := u) fun e => absurd e stops
    have front : trimStartChars (s ++ u) = q :: (r ++ u) :=
      text.trans (congrArg (· ++ u) hs)
    rw [hs] at h
    rw [front, blanks]
    dsimp only at h ⊢
    split at h
    · rename_i quote
      rw [if_pos quote]
      cases hr : splitAt? q r with
      | none =>
        rw [hr] at h
        cases h
      | some p =>
        rw [hr] at h
        obtain ⟨⟨x, y⟩, hxy, e⟩ := Option.map_eq_some_iff.1 h
        cases e
        rw [splitAt?_append_right hr]
        dsimp only
        rw [splitAt?_append_right hxy]
        rfl
    · rename_i plain
      rw [if_neg plain]
      exact splitAt?_append_right h u

theorem closeBracket?_of_takeBracket? {r : { r : List Char // r.length < s.length }}
    (h : takeBracket? s = some (raw, r)) : closeBracket? s = some (raw, r.val) := by
  unfold takeBracket? at h
  split at h
  · cases h
  · rename_i closed
    cases h
    exact closed

theorem readBrackets?_cons (inner : List Char) : readBrackets? ('[' :: inner)
    = (closeBracket? inner).bind fun p => (bracketSegment? (trimChars p.1)).bind fun step =>
      (readBrackets? p.2).map fun r => (step :: r.1, r.2) := by
  rw [readBrackets?]
  unfold takeBracket?
  split
  · rename_i h
    split at h
    · rename_i unclosed
      rw [unclosed]
      rfl
    · cases h
  · rename_i h
    split at h
    · cases h
    · rename_i closed
      cases h
      rw [closed]
      dsimp only [Option.bind_some]
      cases bracketSegment? _ with
      | none => rfl
      | some step => rfl

theorem ne_nil_of_readBrackets? {inner : List Char}
    (read : readBrackets? ('[' :: inner) = some (steps, rest)) : steps ≠ [] := by
  rw [readBrackets?_cons] at read
  obtain ⟨_, -, read⟩ := Option.bind_eq_some_iff.1 read
  obtain ⟨_, -, read⟩ := Option.bind_eq_some_iff.1 read
  obtain ⟨_, -, read⟩ := Option.map_eq_some_iff.1 read
  cases read
  exact List.cons_ne_nil _ _

/-- What stands in a bracket without blanks around it is read as it is. -/
theorem readBrackets?_cons_of_bare {inner : List Char} {step : Segment}
    (closed : closeBracket? inner = some (raw, after)) (bare : Bare isBlank raw)
    (read : bracketSegment? raw = some step) (more : readBrackets? after = some (steps, rest)) :
    readBrackets? ('[' :: inner) = some (step :: steps, rest) := by
  rw [readBrackets?_cons, closed, Option.bind_some]
  dsimp only
  rw [trimChars_of_bare bare, read, Option.bind_some, more]
  rfl

theorem readBrackets?_of_head (h : s.head? ≠ some '[') : readBrackets? s = some ([], s) := by
  rw [readBrackets?]
  exact fun inner e => h (by rw [e]; rfl)

/-- Behind brackets that were read the reading goes on. -/
theorem readBrackets?_append (h : readBrackets? s = some (steps, rest)) (u : List Char) :
    readBrackets? (s ++ u) = (readBrackets? (rest ++ u)).map fun p => (steps ++ p.1, p.2) := by
  fun_induction readBrackets? s generalizing steps with
  | case1 => cases h
  | case2 => cases h
  | case3 inner raw after shorter taken step hs ih =>
    obtain ⟨⟨more, x⟩, hm, e⟩ := Option.map_eq_some_iff.1 h
    cases e
    rw [List.cons_append, readBrackets?_cons,
      closeBracket?_append (closeBracket?_of_takeBracket? taken), Option.bind_some, hs,
      Option.bind_some, ih hm, Option.map_map]
    rfl
  | case4 s hs =>
    cases h
    exact (congrFun Option.map_id _).symm

/-! ## Steps -/

/-- Reads on behind steps: at the end of the path, or behind a point. -/
def onward? (steps : List Segment) : List Char → Option (List Segment)
  | [] => some steps
  | '.' :: r => (readSteps? r).map (steps ++ ·)
  | _ => none

theorem onward?_append (a b : List Segment) (s : List Char) :
    onward? (a ++ b) s = (onward? b s).map (a ++ ·) := by
  unfold onward?
  split
  · rfl
  · rw [Option.map_map]
    exact congrArg (Option.map · _) (funext fun c => List.append_assoc a b c)
  · rfl

theorem readSteps?_eq (s : List Char) : readSteps? s
    = (readBrackets? (s.dropWhile fun c => !endsKey c)).bind fun p =>
      if (bareKey (s.takeWhile fun c => !endsKey c) ++ p.1).isEmpty then none
      else onward? (bareKey (s.takeWhile fun c => !endsKey c) ++ p.1) p.2 := by
  rw [readSteps?]
  unfold takeSteps?
  split
  · rename_i h
    split at h
    · cases h
    · cases h
    · rename_i goes stops
      cases read : readBrackets? (s.dropWhile fun c => !endsKey c) with
      | none => rfl
      | some p =>
        have stuck : onward? (bareKey (s.takeWhile fun c => !endsKey c) ++ p.1) p.2 = none := by
          unfold onward?
          split
          · rename_i e
            exact (goes p.1 (by rw [read, ← e])).elim
          · rename_i r e
            exact (stops p.1 r (by rw [read, ← e])).elim
          · rfl
        rw [Option.bind_some, stuck, ite_self]
  · rename_i h
    split at h
    · rename_i read
      cases h
      rw [read]
      rfl
    · cases h
    · cases h
  · rename_i h
    split at h
    · cases h
    · rename_i read
      cases h
      rw [read]
      rfl
    · cases h

theorem readSteps?_nil : readSteps? [] = none := by
  rw [readSteps?_eq, List.dropWhile_nil, readBrackets?_of_head (by simp)]
  rfl

/-- Behind the first key and its brackets the reading goes on as before. -/
theorem readSteps?_append_of_first
    (read : readBrackets? (s.dropWhile fun c => !endsKey c) = some (steps, rest))
    (begun : bareKey (s.takeWhile fun c => !endsKey c) ++ steps ≠ [])
    (ends : ∀ c, u.head? = some c → endsKey c = true) :
    readSteps? (s ++ u) = (readBrackets? (rest ++ u)).bind fun p =>
      onward? (bareKey (s.takeWhile fun c => !endsKey c) ++ steps ++ p.1) p.2 := by
  obtain ⟨sameKey, sameRest⟩ := takeWhile_append_of_stops (s := s) (p := fun c => !endsKey c)
    fun _ c hc => by rw [ends c hc]; rfl
  rw [readSteps?_eq, sameKey, sameRest, readBrackets?_append read, Option.bind_map]
  refine Option.bind_congr fun p _ => ?_
  dsimp only [Function.comp]
  rw [← List.append_assoc, if_neg]
  rw [List.isEmpty_iff]
  exact List.append_ne_nil_of_left_ne_nil begun p.1

/-- What was read is not read otherwise for the step that follows. -/
theorem readSteps?_append (h : readSteps? s = some a)
    (ends : ∀ c, u.head? = some c → endsKey c = true) :
    readSteps? (s ++ u) = (readBrackets? u).bind fun p => onward? (a ++ p.1) p.2 := by
  -- On the length: the steps behind a point are shorter, and what follows them is the same.
  induction hn : s.length using Nat.strong_induction_on generalizing s a with
  | _ n ih =>
    rw [readSteps?_eq] at h
    obtain ⟨⟨brackets, rest⟩, read, ha⟩ := Option.bind_eq_some_iff.1 h
    dsimp only at ha
    split at ha
    · cases ha
    · rename_i begun
      rw [List.isEmpty_iff] at begun
      rw [readSteps?_append_of_first read begun ends]
      generalize bareKey _ ++ brackets = steps at ha ⊢
      unfold onward? at ha
      split at ha
      · cases ha
        rfl
      · rename_i r
        obtain ⟨b, hb, rfl⟩ := Option.map_eq_some_iff.1 ha
        have shorter := (length_readBrackets?_le read).trans (List.dropWhile_sublist _).length_le
        have point : readBrackets? ('.' :: r ++ u) = some ([], '.' :: (r ++ u)) :=
          readBrackets?_of_head (by simp)
        have behind := ih r.length (by rw [List.length_cons] at shorter; omega) hb rfl
        rw [point, Option.bind_some, List.append_nil, onward?, behind, Option.map_bind]
        refine Option.bind_congr fun p _ => ?_
        rw [List.append_assoc, onward?_append steps]
        rfl
      · cases ha

theorem readSteps?_point (h : readSteps? s = some a) (t : List Char) :
    readSteps? (s ++ '.' :: t) = (readSteps? t).map (a ++ ·) := by
  have point : readBrackets? ('.' :: t) = some ([], '.' :: t) := readBrackets?_of_head (by simp)
  rw [readSteps?_append h (by simp [endsKey]), point, Option.bind_some, List.append_nil, onward?]

theorem readSteps?_bracket (h : readSteps? s = some a) (t : List Char) :
    readSteps? (s ++ '[' :: t) = (readSteps? ('[' :: t)).map (a ++ ·) := by
  rw [readSteps?_append h (by simp [endsKey]), readSteps?_eq ('[' :: t), Option.map_bind]
  refine Option.bind_congr fun ⟨steps, rest⟩ read => ?_
  have begun : steps ≠ [] := ne_nil_of_readBrackets? read
  show _ = Option.map (a ++ ·) (if steps.isEmpty then none else onward? steps rest)
  rw [if_neg (by rwa [List.isEmpty_iff]), onward?_append]

/-! ## Whole paths -/

theorem dropRoot_of_head (h : s.head? ≠ some '$') : dropRoot s = s := by
  unfold dropRoot
  split
  · exact absurd rfl h
  · exact absurd rfl h
  · rfl

theorem dropRoot_append (h : dropRoot s ≠ []) (t : List Char) :
    dropRoot (s ++ t) = dropRoot s ++ t := by
  fun_cases dropRoot s with
  | case1 r => rfl
  | case2 r noPoint =>
    rw [dropRoot] at h
    · obtain ⟨c, r, rfl⟩ := List.exists_cons_of_ne_nil h
      rw [List.cons_append, dropRoot]
      rintro x ⟨⟩
      exact noPoint r rfl
    · exact noPoint
  | case3 _ _ noRoot =>
    cases s with
    | nil => exact absurd rfl h
    | cons c s =>
      refine dropRoot_of_head fun e => noRoot s ?_
      rw [Option.some.inj e]

theorem parseChars?_append {p : List Char} (h : parseChars? p = some a)
    (last : ∀ c, p.getLast? = some c → isBlank c = false) {c : Char} (hc : isBlank c = false)
    (t : List Char) : ∃ s, readSteps? s = some a
      ∧ parseChars? (p ++ c :: t) = readSteps? (s ++ c :: trimEndChars t) := by
  refine ⟨dropRoot (trimChars p), ?_⟩
  unfold parseChars? at h ⊢
  dsimp only at h ⊢
  split at h
  · cases h
  · rename_i begun
    rw [List.isEmpty_iff] at begun
    refine ⟨h, ?_⟩
    rw [trimChars_append_cons hc last, dropRoot_append begun, if_neg (by simp)]

theorem parseChars?_of_head {q : List Char}
    (head : ∀ c, q.head? = some c → isBlank c = false ∧ c ≠ '$') :
    parseChars? q = readSteps? (trimEndChars q) := by
  have trimmed : trimChars q = trimEndChars q :=
    congrArg trimEndChars (dropWhile_eq_self fun c hc => (head c hc).1)
  have bare : (trimEndChars q).head? ≠ some '$' := by
    obtain ⟨r, hr⟩ : trimEndChars q <+: q := List.rdropWhile_prefix isBlank q
    intro e
    refine (head '$' ?_).2 rfl
    rw [← hr, List.head?_append, e]
    rfl
  unfold parseChars?
  rw [trimmed, dropRoot_of_head bare]
  cases trimEndChars q with
  | nil => exact readSteps?_nil.symm
  | cons c r => rfl

theorem parseChars?_point {p q : List Char} (h : parseChars? p = some a)
    (last : ∀ c, p.getLast? = some c → isBlank c = false)
    (head : ∀ c, q.head? = some c → isBlank c = false ∧ c ≠ '$') :
    parseChars? (p ++ '.' :: q) = (parseChars? q).map (a ++ ·) := by
  obtain ⟨s, hs, joined⟩ := parseChars?_append h last (c := '.') rfl q
  rw [joined, readSteps?_point hs, parseChars?_of_head head]

theorem parseChars?_bracket {p : List Char} (h : parseChars? p = some a)
    (last : ∀ c, p.getLast? = some c → isBlank c = false) (t : List Char) :
    parseChars? (p ++ '[' :: t) = (parseChars? ('[' :: t)).map (a ++ ·) := by
  have bracket : isBlank '[' = false := rfl
  obtain ⟨s, hs, joined⟩ := parseChars?_append h last bracket t
  rw [joined, readSteps?_bracket hs, parseChars?_of_head (by simp [bracket])]
  exact congrArg (fun s => (readSteps? s).map _) (trimEndChars_append_cons bracket [] t).symm

/-- Brackets alone are a path. -/
theorem parseChars?_enclosed (read : readBrackets? ('[' :: (s ++ [']'])) = some (steps, [])) :
    parseChars? ('[' :: (s ++ [']'])) = some steps := by
  have whole : trimEndChars ('[' :: (s ++ [']'])) = '[' :: (s ++ [']']) :=
    trimEndChars_append_cons (c := ']') rfl ('[' :: s) []
  rw [parseChars?_of_head, whole, readSteps?_eq, List.takeWhile_cons_of_neg (by decide),
    List.dropWhile_cons_of_neg (by decide), read]
  · exact if_neg (by rw [List.isEmpty_iff]; exact ne_nil_of_readBrackets? read)
  · intro c hc
    cases hc
    decide

theorem parse?_point {p q : String} (h : parse? p = some a)
    (last : ∀ c, p.toList.getLast? = some c → isBlank c = false)
    (head : ∀ c, q.toList.head? = some c → isBlank c = false ∧ c ≠ '$') :
    parse? (p ++ "." ++ q) = (parse? q).map (a ++ ·) := by
  unfold parse?
  rw [String.toList_append, String.toList_append, List.append_assoc]
  exact parseChars?_point h last head

theorem parse?_bracket {p q : String} (h : parse? p = some a)
    (last : ∀ c, p.toList.getLast? = some c → isBlank c = false)
    (head : q.toList.head? = some '[') : parse? (p ++ q) = (parse? q).map (a ++ ·) := by
  obtain ⟨t, e⟩ := List.head?_eq_some_iff.1 head
  unfold parse?
  rw [String.toList_append, e]
  exact parseChars?_bracket h last t

theorem lookup?_of_steps {path : String} (h : parse? path = some (a ++ b)) (root : Json) :
    root.lookup? path = (root.follow? a).bind fun v => v.follow? b := by
  unfold Json.lookup?
  rw [h]
  exact Json.follow?_append root a b

/-! ## Indexes -/

theorem unquote?_of_head {q : Char} (h : s.head? ≠ some q) : unquote? q s = none := by
  cases s with
  | nil => rfl
  | cons c r =>
    have other : c ≠ q := fun e => h (congrArg some e)
    rw [unquote?, decide_eq_false other, Bool.false_and, if_neg Bool.false_ne_true]

/-- The digits of an index reach the same in a bracket as bare. -/
theorem bracketSegment?_natChars (n : Nat) : ∃ step, bracketSegment? (natChars n) = some step
    ∧ ∀ root, step.get? root = (Segment.key (intText n)).get? root := by
  have unquoted {q : Char} (hq : q.isDigit = false) : unquote? q (natChars n) = none := by
    refine unquote?_of_head fun e => ?_
    exact (isDigits_natChars n).not_mem hq (List.mem_of_mem_head? e)
  unfold bracketSegment?
  split
  · rename_i m read
    refine ⟨_, rfl, fun root => ?_⟩
    cases eq_of_readIntegerChars read
    have value : readInteger? .unsigned64 (intText n) = some (n : Int) := by
      rw [readInteger?, readInteger, intText, String.toList_ofList]
      exact congrArg Except.toOption read
    cases root with
    | arr items =>
      rw [Segment.get?, Segment.get?, value]
      rfl
    | obj m => rfl
    | _ => rfl
  · refine ⟨.key (intText n), ?_, fun root => rfl⟩
    rw [unquoted rfl, unquoted rfl]
    exact if_neg (by rw [List.isEmpty_iff]; exact natChars_ne_nil n)

theorem readSteps?_bareKey (hne : s ≠ []) (bare : ∀ c ∈ s, endsKey c = false) :
    readSteps? s = some [.key (String.ofList s)] := by
  have all : ∀ c ∈ s, (!endsKey c) = true := fun c hc => by rw [bare c hc]; rfl
  rw [readSteps?_eq, List.takeWhile_eq_self_iff.2 all, List.dropWhile_eq_nil_iff.2 all,
    readBrackets?_of_head (by simp), Option.bind_some, List.append_nil,
    show bareKey s = [.key (String.ofList s)] from if_neg (by rwa [List.isEmpty_iff])]
  rfl

theorem not_endsKey_of_isDigit {c : Char} (h : c.isDigit = true) : endsKey c = false := by
  refine Bool.eq_false_iff.2 fun e => ?_
  rw [endsKey, Bool.or_eq_true, beq_iff_eq, beq_iff_eq] at e
  rcases e with rfl | rfl
  · cases h
  · cases h

theorem bare_natChars (n : Nat) : Bare isBlank (natChars n) where
  head c hc := not_isBlank_of_isDigit (isDigits_natChars n c (List.mem_of_mem_head? hc))
  last c hc := not_isBlank_of_isDigit (isDigits_natChars n c (List.mem_of_getLast? hc))

theorem head_natChars (n : Nat) :
    ∀ c, (natChars n).head? = some c → isBlank c = false ∧ c ≠ '$' := by
  intro c hc
  refine ⟨(bare_natChars n).head c hc, ?_⟩
  rintro rfl
  exact (isDigits_natChars n).not_mem rfl (List.mem_of_mem_head? hc)

theorem parseChars?_natChars (n : Nat) : parseChars? (natChars n) = some [.key (intText n)] := by
  have bare : ∀ c ∈ natChars n, endsKey c = false := fun c hc =>
    not_endsKey_of_isDigit (isDigits_natChars n c hc)
  rw [parseChars?_of_head (head_natChars n), trimEndChars_of_last (bare_natChars n).last,
    readSteps?_bareKey (natChars_ne_nil n) bare]
  rfl

theorem closeBracket?_natChars (n : Nat) :
    closeBracket? (natChars n ++ [']']) = some (natChars n, []) := by
  have digits := isDigits_natChars n
  have ne := natChars_ne_nil n
  have closing : splitAt? ']' (natChars n ++ [']']) = some (natChars n, []) :=
    splitAt?_append (digits.not_mem rfl) []
  unfold closeBracket?
  rw [trimStartChars_append digits ne, closing]
  obtain ⟨c, r, e⟩ := List.exists_cons_of_ne_nil ne
  have plain (q : Char) (hq : q.isDigit = false) : c ≠ q := by
    rintro rfl
    exact digits.not_mem hq (by rw [e]; exact List.mem_cons_self)
  rw [e]
  exact if_neg (by simp [plain '"' rfl, plain '\'' rfl])

theorem parseChars?_inBrackets {step : Segment} {n : Nat}
    (h : bracketSegment? (natChars n) = some step) :
    parseChars? ('[' :: (natChars n ++ [']'])) = some [step] :=
  parseChars?_enclosed (readBrackets?_cons_of_bare (closeBracket?_natChars n) (bare_natChars n) h
    (readBrackets?_of_head (by simp)))

theorem parse?_intText (n : Nat) : parse? (intText n) = some [.key (intText n)] := by
  unfold parse?
  rw [intText, String.toList_ofList]
  exact parseChars?_natChars n

theorem parse?_inBrackets {step : Segment} {n : Nat}
    (h : bracketSegment? (natChars n) = some step) :
    parse? ("[" ++ intText n ++ "]") = some [step] := by
  have written : ("[" ++ intText n ++ "]").toList = '[' :: (natChars n ++ [']']) := by
    simp [intText, intChars]
  rw [parse?, written]
  exact parseChars?_inBrackets h

/-- A joined path leads where the second one leads from what the first one reaches, and an index
may stand behind a point or in a bracket. -/
theorem joined_leads_on {p : String} (hp : parse? p = some a)
    (last : ∀ c, p.toList.getLast? = some c → isBlank c = false) :
    (∀ (q : String) (b : List Segment), parse? q = some b →
      (∀ c, q.toList.head? = some c → isBlank c = false ∧ c ≠ '$') →
      (parse? (p ++ "." ++ q) = some (a ++ b) ∧ ∀ root : Json,
        root.lookup? (p ++ "." ++ q) = (root.lookup? p).bind fun v => v.lookup? q)
      ∧ (q.toList.head? = some '[' → parse? (p ++ q) = some (a ++ b) ∧ ∀ root : Json,
        root.lookup? (p ++ q) = (root.lookup? p).bind fun v => v.lookup? q))
    ∧ ∀ (n : Nat) (root : Json),
      root.lookup? (p ++ "." ++ intText n) = root.lookup? (p ++ "[" ++ intText n ++ "]") := by
  constructor
  · intro q b hq head
    have leads {path : String} (joined : parse? path = some (a ++ b)) (root : Json) :
        root.lookup? path = (root.lookup? p).bind fun v => v.lookup? q := by
      rw [lookup?_of_steps joined, Json.lookup?, hp]
      simp only [Json.lookup?, hq, Option.bind_some]
    have point : parse? (p ++ "." ++ q) = some (a ++ b) := by
      rw [parse?_point hp last head, hq]
      rfl
    refine ⟨⟨point, leads point⟩, fun bracket => ?_⟩
    have joined : parse? (p ++ q) = some (a ++ b) := by
      rw [parse?_bracket hp last bracket, hq]
      rfl
    exact ⟨joined, leads joined⟩
  · intro n root
    obtain ⟨step, hstep, same⟩ := bracketSegment?_natChars n
    have point : parse? (p ++ "." ++ intText n) = some (a ++ [.key (intText n)]) := by
      rw [parse?_point hp last, parse?_intText]
      · rfl
      · rw [intText, String.toList_ofList]
        exact head_natChars n
    have bracket : parse? (p ++ "[" ++ intText n ++ "]") = some (a ++ [step]) := by
      rw [String.append_assoc, String.append_assoc, parse?_bracket hp last, ← String.append_assoc,
        parse?_inBrackets hstep]
      · rfl
      · rw [String.toList_append]
        rfl
    rw [lookup?_of_steps point, lookup?_of_steps bracket]
    simp only [Json.follow?, same]

/-- A quoted key may hold a point or a bracket on either side of the join. -/
theorem joined_leads_on_quoted :
    parse? "$.data['x.y']" = some [.key "data", .key "x.y"]
    ∧ parse? "[\"c]d\"].items" = some [.key "c]d", .key "items"]
    ∧ parse? ("$.data['x.y']" ++ "[\"c]d\"].items")
      = some [.key "data", .key "x.y", .key "c]d", .key "items"]
    ∧ ∀ root : Json, root.lookup? ("$.data['x.y']" ++ "." ++ "[\"c]d\"].items")
      = (root.lookup? "$.data['x.y']").bind fun v => v.lookup? "[\"c]d\"].items" := by
  have first : parse? "$.data['x.y']" = some [.key "data", .key "x.y"] := by decide +kernel
  have second : parse? "[\"c]d\"].items" = some [.key "c]d", .key "items"] := by
    decide +kernel
  have joined := (joined_leads_on first (by rintro c ⟨⟩; rfl)).1 _ _ second
    (by rintro c ⟨⟩; decide)
  exact ⟨first, second, (joined.2 rfl).1, joined.1.2⟩

end JsonPath

end Dialogue
