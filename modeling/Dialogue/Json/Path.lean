import Dialogue.Json.Basic
import Dialogue.Text.Blank
import Dialogue.Text.Integer

/-!
# Paths into values

A path names a part of a value by steps: bare keys between points, and indexes or keys in
brackets, where a quoted key may hold points and brackets. A dollar sign in front stands for the
whole value. A step that is a number reaches an item of an array and the member of that name of an
object alike.
-/

namespace Dialogue

/-- One step of a path. -/
inductive Segment where
  | key (name : String)
  | index (n : Nat)
  deriving DecidableEq, Repr

namespace JsonPath

open Text

/-- The text in a bracket and what follows the closing bracket. After an opening quote the closing
bracket is looked for behind the closing quote. -/
def closeBracket? (inner : List Char) : Option (List Char × List Char) :=
  match trimStartChars inner with
  | [] => none
  | q :: r =>
    if q = '"' || q = '\'' then
      match splitAt? q r with
      | none => none
      | some (quoted, r) =>
        (splitAt? ']' r).map fun p => (inner.takeWhile isBlank ++ q :: quoted ++ q :: p.1, p.2)
    else splitAt? ']' inner

theorem length_splitAt?_lt {c : Char} {s a b : List Char} (h : splitAt? c s = some (a, b)) :
    b.length < s.length := by
  induction s generalizing a with
  | nil => simp [splitAt?] at h
  | cons d r ih =>
    by_cases hd : d = c
    · simp only [splitAt?, if_pos hd, Option.some.injEq, Prod.mk.injEq] at h
      simp [← h.2]
    · simp only [splitAt?, if_neg hd, Option.map_eq_some_iff] at h
      obtain ⟨⟨x, y⟩, hxy, e⟩ := h
      simp only [Prod.mk.injEq] at e
      obtain ⟨-, rfl⟩ := e
      have := ih hxy
      simp only [List.length_cons]
      omega

theorem length_trimStartChars_le (s : List Char) : (trimStartChars s).length ≤ s.length :=
  (List.dropWhile_sublist _).length_le

theorem length_closeBracket?_lt {s a b : List Char} (h : closeBracket? s = some (a, b)) :
    b.length < s.length := by
  unfold closeBracket? at h
  have hs := length_trimStartChars_le s
  split at h
  · simp at h
  · rename_i q r hq
    rw [hq, List.length_cons] at hs
    split at h
    · split at h
      · simp at h
      · rename_i quoted r' hr
        simp only [Option.map_eq_some_iff] at h
        obtain ⟨⟨x, y⟩, hxy, e⟩ := h
        simp only [Prod.mk.injEq] at e
        obtain ⟨-, rfl⟩ := e
        have := length_splitAt?_lt hr
        have := length_splitAt?_lt hxy
        omega
    · exact length_splitAt?_lt h

/-- A text without the quote at both ends, if it has one. -/
def unquote? (q : Char) : List Char → Option (List Char)
  | [] => none
  | c :: r => if c = q && r.getLast? = some q then some r.dropLast else none

/-- The step that the text of a bracket writes. -/
def bracketSegment? (raw : List Char) : Option Segment :=
  match readIntegerChars .unsigned64 raw with
  | .ok n => some (.index n.toNat)
  | .error _ =>
    let name := ((unquote? '"' raw).or (unquote? '\'' raw)).getD raw
    if name.isEmpty then none else some (.key (String.ofList name))

/-- Takes what stands in a bracket; the rest is shorter. -/
def takeBracket? (s : List Char) :
    Option (List Char × { r : List Char // r.length < s.length }) :=
  match h : closeBracket? s with
  | none => none
  | some (raw, after) => some (raw, ⟨after, length_closeBracket?_lt h⟩)

/-- Reads brackets as long as they follow one another. -/
def readBrackets? (s : List Char) : Option (List Segment × List Char) :=
  match s with
  | '[' :: inner =>
    match takeBracket? inner with
    | none => none
    | some (raw, ⟨after, _⟩) =>
      match bracketSegment? (trimChars raw) with
      | none => none
      | some step => (readBrackets? after).map fun p => (step :: p.1, p.2)
  | rest => some ([], rest)
  termination_by s.length

theorem length_readBrackets?_le {s rest : List Char} {steps : List Segment}
    (h : readBrackets? s = some (steps, rest)) : rest.length ≤ s.length := by
  fun_induction readBrackets? s generalizing steps with
  | case1 => simp at h
  | case2 => simp at h
  | case3 inner raw after hlt hc step hs ih =>
    simp only [Option.map_eq_some_iff] at h
    obtain ⟨⟨x, y⟩, hxy, e⟩ := h
    simp only [Prod.mk.injEq] at e
    obtain ⟨-, rfl⟩ := e
    have := ih hxy
    simp only [List.length_cons]
    omega
  | case4 => simp_all

/-- Whether a character ends a bare key. -/
def endsKey (c : Char) : Bool := c == '.' || c == '['

/-- The step of a bare key, if there is one. -/
def bareKey (s : List Char) : List Segment :=
  if s.isEmpty then [] else [.key (String.ofList s)]

/-- Takes a bare key and the brackets behind it, then the end of the path or a point; what follows
a point is shorter. -/
def takeSteps? (s : List Char) :
    Option (List Segment × Option { r : List Char // r.length < s.length }) :=
  let key := bareKey (s.takeWhile fun c => !endsKey c)
  match h : readBrackets? (s.dropWhile fun c => !endsKey c) with
  | some (brackets, []) => some (key ++ brackets, none)
  | some (brackets, '.' :: r) =>
    some (key ++ brackets, some ⟨r, Nat.le_trans (length_readBrackets?_le h)
      (List.dropWhile_sublist fun c => !endsKey c).length_le⟩)
  | _ => none

/-- Reads the steps after the dollar sign; between two points there is at least one. -/
def readSteps? (s : List Char) : Option (List Segment) :=
  match takeSteps? s with
  | none => none
  | some (steps, none) => if steps.isEmpty then none else some steps
  | some (steps, some ⟨r, _⟩) =>
    if steps.isEmpty then none else (readSteps? r).map (steps ++ ·)
  termination_by s.length

/-- Drops the dollar sign that stands for the whole value, and a point after it. -/
def dropRoot : List Char → List Char
  | '$' :: '.' :: r => r
  | '$' :: r => r
  | s => s

/-- Reads a path. Nothing for an empty or malformed one. -/
def parseChars? (path : List Char) : Option (List Segment) :=
  let s := dropRoot (trimChars path)
  if s.isEmpty then none else readSteps? s

/-- Reads a path. Nothing for an empty or malformed one. -/
def parse? (path : String) : Option (List Segment) := parseChars? path.toList

end JsonPath

namespace Segment

/-- The part of a value that one step reaches. -/
def get? : Segment → Json → Option Json
  | .key name, .obj m => Members.get? name m
  | .key name, .arr items =>
    (Text.readInteger? .unsigned64 name).bind fun n => items[n.toNat]?
  | .index n, .arr items => items[n]?
  | .index n, .obj m => Members.get? (Text.intText n) m
  | _, _ => none

def toJson : Segment → Json
  | .key k => .object [("key", .str k)]
  | .index n => .object [("index", .int n)]

end Segment

namespace Json

/-- The part of a value that steps reach. -/
def follow? (root : Json) : List Segment → Option Json
  | [] => some root
  | s :: r => (s.get? root).bind fun v => follow? v r

/-- The part of a value that a path names. -/
def lookup? (root : Json) (path : String) : Option Json :=
  (JsonPath.parse? path).bind root.follow?

theorem follow?_append (root : Json) (a b : List Segment) :
    root.follow? (a ++ b) = (root.follow? a).bind fun v => v.follow? b := by
  induction a generalizing root with
  | nil => rfl
  | cons s r ih =>
    simp only [List.cons_append, follow?]
    cases s.get? root with
    | none => rfl
    | some v => exact ih v

end Json

end Dialogue
