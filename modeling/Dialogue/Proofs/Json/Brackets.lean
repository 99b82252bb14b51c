import Dialogue.Proofs.Json.Paths

/-!
# Paths written in brackets

A bracket writes an index by its digits, and a key between two quotes of a kind that the key does
not hold (`Inside`). What else the key holds makes no difference: the closing bracket is looked for
behind the closing quote, and a text that begins with a quote is neither trimmed nor a number. So
steps that are written in brackets are read back, and a member of an object is reached under its
name, unless that is empty or holds quotes of both kinds (`bracketed_leads`).
-/

namespace Dialogue

open Text

/-- A key that is not empty and lacks one of the quotes, or an index of the range that is read. -/
def Segment.HasBracket : Segment → Prop
  | .key name => name ≠ "" ∧ ¬('"' ∈ name.toList ∧ '\'' ∈ name.toList)
  | .index n => Range.unsigned64.has n = true

namespace JsonPath

/-- One of the characters that a key may stand between. -/
def IsQuote (q : Char) : Prop := q = '"' ∨ q = '\''

/-- The text of a step inside a bracket. -/
inductive Inside : Segment → List Char → Prop
  | index (n : Nat) : Inside (.index n) (natChars n)
  | key {q : Char} {name : String} (quote : IsQuote q) (free : q ∉ name.toList) :
      Inside (.key name) (q :: (name.toList ++ [q]))

/-- The text of steps, each in a bracket of its own. -/
inductive Bracketed : List Segment → List Char → Prop
  | nil : Bracketed [] []
  | cons {step : Segment} {steps : List Segment} {raw s : List Char} (here : Inside step raw)
      (rest : Bracketed steps s) : Bracketed (step :: steps) ('[' :: (raw ++ ']' :: s))

variable {q : Char} {s raw : List Char} {step : Segment} {steps : List Segment}

theorem exists_inside (h : step.HasBracket) : ∃ raw, Inside step raw := by
  cases step with
  | index n => exact ⟨_, .index n⟩
  | key name =>
    rcases not_and_or.1 h.2 with free | free
    · exact ⟨_, .key (.inl rfl) free⟩
    · exact ⟨_, .key (.inr rfl) free⟩

theorem exists_bracketed : ∀ {steps : List Segment}, (∀ step ∈ steps, step.HasBracket) →
    ∃ s, Bracketed steps s
  | [], _ => ⟨[], .nil⟩
  | _ :: _, each => by
    obtain ⟨here, others⟩ := List.forall_mem_cons.1 each
    obtain ⟨raw, inside⟩ := exists_inside here
    obtain ⟨s, rest⟩ := exists_bracketed others
    exact ⟨_, .cons inside rest⟩

/-! ## One bracket -/

theorem IsQuote.not_isBlank (quote : IsQuote q) : isBlank q = false := by
  rcases quote with rfl | rfl
  · rfl
  · rfl

/-- A key between quotes may hold closing brackets. -/
theorem closeBracket?_quoted {name : List Char} (quote : IsQuote q) (free : q ∉ name)
    (after : List Char) :
    closeBracket? (q :: (name ++ q :: ']' :: after)) = some (q :: (name ++ [q]), after) := by
  have solid : ¬isBlank q = true := by simp [quote.not_isBlank]
  have mark : (decide (q = '"') || decide (q = '\'')) = true := by
    simpa [IsQuote] using quote
  unfold closeBracket?
  rw [trimStartChars, List.dropWhile_cons_of_neg solid, List.takeWhile_cons_of_neg solid]
  dsimp only
  -- As the key does not hold the quote, the next one closes it.
  rw [if_pos mark, splitAt?_append free]
  dsimp only
  rw [splitAt?, if_pos rfl]
  rfl

theorem Inside.closed (inside : Inside step raw) (after : List Char) :
    closeBracket? (raw ++ ']' :: after) = some (raw, after) := by
  cases inside with
  | index n =>
    have digits := closeBracket?_append (closeBracket?_natChars n) after
    rwa [List.append_assoc] at digits
  | key quote free =>
    rw [List.cons_append, List.append_assoc]
    exact closeBracket?_quoted quote free after

theorem Inside.bare (inside : Inside step raw) : Bare isBlank raw := by
  cases inside with
  | index n => exact bare_natChars n
  | key quote free =>
    refine ⟨fun c hc => ?_, fun c hc => ?_⟩
    · cases hc
      exact quote.not_isBlank
    · rw [← List.cons_append, List.getLast?_concat] at hc
      cases hc
      exact quote.not_isBlank

theorem readIntegerChars_of_quote (quote : IsQuote q) (s : List Char) :
    readIntegerChars .unsigned64 (q :: s) = .error .invalidDigit := by
  rcases quote with rfl | rfl
  · rfl
  · rfl

theorem unquote?_quoted (quote : IsQuote q) (name : List Char) :
    (unquote? '"' (q :: (name ++ [q]))).or (unquote? '\'' (q :: (name ++ [q]))) = some name := by
  have unquoted : unquote? q (q :: (name ++ [q])) = some name := by simp [unquote?]
  -- The double quote is tried first, whatever quotes the key holds.
  rcases quote with rfl | rfl
  · rw [unquoted, Option.some_or]
  · rw [unquote?_of_head (by simp), Option.none_or, unquoted]

theorem Inside.read (inside : Inside step raw) (h : step.HasBracket) :
    bracketSegment? raw = some step := by
  unfold bracketSegment?
  cases inside with
  | index n =>
    rw [readIntegerChars_natChars (Range.has_iff.1 h).2]
    rfl
  | key quote free =>
    rw [readIntegerChars_of_quote quote]
    dsimp only
    rw [unquote?_quoted quote, Option.getD_some, if_neg (by simpa using h.1), String.ofList_toList]

/-! ## Brackets behind one another -/

theorem Bracketed.enclosed (written : Bracketed steps s) (ne : steps ≠ []) :
    ∃ t, s = '[' :: (t ++ [']']) := by
  induction written with
  | nil => exact absurd rfl ne
  | @cons _ _ raw _ _ rest ih =>
    cases rest with
    | nil => exact ⟨raw, rfl⟩
    | cons here rest =>
      obtain ⟨t, e⟩ := ih (List.cons_ne_nil _ _)
      exact ⟨raw ++ ']' :: '[' :: t, by rw [e]; simp⟩

theorem Bracketed.read (written : Bracketed steps s) (each : ∀ step ∈ steps, step.HasBracket) :
    readBrackets? s = some (steps, []) := by
  induction written with
  | nil => exact readBrackets?_of_head (by simp)
  | @cons _ _ _ s inside _ ih =>
    obtain ⟨here, others⟩ := List.forall_mem_cons.1 each
    exact readBrackets?_cons_of_bare (inside.closed s) inside.bare (inside.read here) (ih others)

theorem parse?_of_bracketed {path : String} (written : Bracketed steps path.toList)
    (ne : steps ≠ []) (each : ∀ step ∈ steps, step.HasBracket) : parse? path = some steps := by
  obtain ⟨t, e⟩ := written.enclosed ne
  have read := written.read each
  unfold parse?
  rw [e] at read ⊢
  exact parseChars?_enclosed read

/-- Steps that are written in brackets are read back. So in an object that steps reach, or that is
the whole value, a member is reached under its name. -/
theorem bracketed_leads (each : ∀ step ∈ steps, step.HasBracket) :
    (steps ≠ [] → (∃ path : String, Bracketed steps path.toList)
      ∧ ∀ path : String, Bracketed steps path.toList → parse? path = some steps)
    ∧ ∀ name : String, name ≠ "" → ¬('"' ∈ name.toList ∧ '\'' ∈ name.toList) →
      (∃ path : String, Bracketed (steps ++ [.key name]) path.toList)
      ∧ ∀ path : String, Bracketed (steps ++ [.key name]) path.toList →
        ∀ (root : Json) (m : Members), root.follow? steps = some (.obj m) →
          root.lookup? path = m.get? name := by
  have written {steps : List Segment} (each : ∀ step ∈ steps, step.HasBracket) :
      ∃ path : String, Bracketed steps path.toList := by
    obtain ⟨s, written⟩ := exists_bracketed each
    exact ⟨String.ofList s, by rwa [String.toList_ofList]⟩
  refine ⟨fun ne => ⟨written each, fun path h => parse?_of_bracketed h ne each⟩,
    fun name ne free => ?_⟩
  have all : ∀ step ∈ steps ++ [.key name], step.HasBracket := by
    intro step mem
    rcases List.mem_append.1 mem with mem | mem
    · exact each step mem
    · rw [List.mem_singleton.1 mem]
      exact ⟨ne, free⟩
  refine ⟨written all, fun path h root m reached => ?_⟩
  rw [lookup?_of_steps (parse?_of_bracketed h (by simp) all), reached, Option.bind_some]
  exact Option.bind_fun_some (m.get? name)

/-- Names with a closing bracket, and with blanks at both ends, a quote and a dollar sign. -/
def oddSteps : List Segment := [.key "c]d", .index 0, .key " it's $.x "]

/-- An object under odd names, with a member under digits and one under the number they write. -/
def oddValue : Json :=
  .obj [("c]d", .arr [.obj [(" it's $.x ", .obj [("007", .str "agent"), ("7", .str "week")])]])]

theorem bracketed_leads_odd : (∀ step ∈ oddSteps, step.HasBracket)
    ∧ parse? "['c]d'][0][\" it's $.x \"]" = some oddSteps
    ∧ oddValue.lookup? "['c]d'][0][\" it's $.x \"]['007']" = some (.str "agent") := by
  have each : ∀ step ∈ oddSteps, step.HasBracket := by
    simp [oddSteps, Segment.HasBracket, Range.has, Range.unsigned64]
  have front {steps : List Segment} {s : List Char} (rest : Bracketed steps s) :
      Bracketed (oddSteps ++ steps) ("['c]d'][0][\" it's $.x \"]".toList ++ s) :=
    .cons (.key (q := '\'') (.inr rfl) (by decide)) (.cons (.index 0)
      (.cons (.key (q := '"') (.inl rfl) (by decide)) rest))
  have field : Bracketed (oddSteps ++ [.key "007"])
      "['c]d'][0][\" it's $.x \"]['007']".toList :=
    front (.cons (.key (q := '\'') (.inr rfl) (by decide)) .nil)
  obtain ⟨whole, members⟩ := bracketed_leads each
  exact ⟨each, (whole (by decide)).2 _ (front .nil),
    (members "007" (by decide) (by decide)).2 _ field oddValue _ rfl⟩

end JsonPath

end Dialogue
