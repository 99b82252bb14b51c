import Dialogue.Json.Path
import Dialogue.Json.Reader
import Dialogue.Json.Writer

/-!
# Templates

A placeholder is a path between two opening and two closing braces. A text is resolved from left
to right: each placeholder gives way to the value at its path, and what was put in is not looked
at again. Nothing fails: a missing value is the empty text.
-/

namespace Dialogue

namespace Template

open Text

/-- Whether a character is a brace. -/
def isBrace (c : Char) : Bool := c == '{' || c == '}'

/-- The text between the braces of a placeholder at the front, and what follows it. -/
def placeholder? : List Char → Option (List Char × List Char)
  | '{' :: '{' :: r =>
    match r.dropWhile fun c => !isBrace c with
    | '}' :: '}' :: rest =>
      let inner := r.takeWhile fun c => !isBrace c
      if inner.isEmpty then none else some (inner, rest)
    | _ => none
  | _ => none

theorem length_placeholder?_lt {s inner rest : List Char}
    (h : placeholder? s = some (inner, rest)) : rest.length < s.length := by
  unfold placeholder? at h
  split at h
  · rename_i r
    split at h
    · rename_i rest' hr
      have := (List.dropWhile_sublist (l := r) fun c => !isBrace c).length_le
      simp only [hr, List.length_cons] at this
      dsimp only at h
      split at h
      · simp at h
      · simp only [Option.some.injEq, Prod.mk.injEq] at h
        rw [← h.2]
        simp only [List.length_cons]
        omega
    · simp at h
  · simp at h

/-- The path in a placeholder: the text without the blanks around it, or its last blank when it
holds nothing else. -/
def path (inner : List Char) : List Char :=
  if (trimChars inner).isEmpty then inner.getLast?.toList else trimChars inner

/-- How a value appears inside a text. -/
def valueText : Json → String
  | .null => ""
  | .str s => s
  | v => v.render

/-- What stands for a placeholder in a text. -/
def substitute (scope : Json) (inner : List Char) : List Char :=
  match scope.lookup? (String.ofList (path inner)) with
  | some v => (valueText v).toList
  | none => []

/-- Resolves the placeholders of a text. -/
def resolveChars (scope : Json) (s : List Char) : List Char :=
  match s with
  | [] => []
  | c :: r =>
    match _h : placeholder? (c :: r) with
    | some (inner, rest) => substitute scope inner ++ resolveChars scope rest
    | none => c :: resolveChars scope r
  termination_by s.length
  decreasing_by
    · exact length_placeholder?_lt _h
    · simp

/-- Resolves the placeholders of a text. -/
def resolve (template : String) (scope : Json) : String :=
  String.ofList (resolveChars scope template.toList)

/-- The path of a text that is one placeholder and nothing else but blanks around it. -/
def sole? (template : String) : Option String :=
  match placeholder? (trimChars template.toList) with
  | some (inner, []) => some (String.ofList (path inner))
  | _ => none

/-- Resolves a string inside a document: a sole placeholder gives way to the value itself. -/
def resolveLeaf (scope : Json) (text : String) : Json :=
  match sole? text with
  | some path => (scope.lookup? path).getD (.str "")
  | none => .str (resolve text scope)

mutual

/-- Resolves every string of a document; the keys of objects stay. -/
def resolveJson (scope : Json) : Json → Json
  | .str text => resolveLeaf scope text
  | .arr items => .arr (resolveItems scope items)
  | .obj members => .obj (resolveMembers scope members)
  | v => v

/-- Resolves the items of an array. -/
def resolveItems (scope : Json) : List Json → List Json
  | [] => []
  | v :: r => resolveJson scope v :: resolveItems scope r

/-- Resolves the members of an object. -/
def resolveMembers (scope : Json) : List (String × Json) → List (String × Json)
  | [] => []
  | (k, v) :: r => (k, resolveJson scope v) :: resolveMembers scope r

end

/-- Resolves a document written as text. A text that is no document before its placeholders are
resolved is resolved first and read afterwards. -/
def resolveDocument? (text : String) (scope : Json) : Option Json :=
  match Json.parse? text with
  | some document => some (resolveJson scope document)
  | none => Json.parse? (resolve text scope)

end Template

end Dialogue
