import Dialogue.Json.Binary64

/-!
# JSON values

Objects keep their members in the order of their keys. Keys are compared by code points, which is
the order of their UTF-8 bytes. An object holds each key once: inserting replaces.
-/

namespace Dialogue

/-- A JSON value. Whole numbers and floating point numbers are different values. -/
inductive Json where
  | null
  | bool (b : Bool)
  | int (n : Int)
  | float (x : Binary64)
  | str (s : String)
  | arr (items : List Json)
  | obj (members : List (String × Json))
  deriving Inhabited, Repr

namespace Json

mutual

/-- Equality of values is decided along their structure. -/
def decEq : (a b : Json) → Decidable (a = b)
  | .null, b => match b with
    | .null => isTrue rfl
    | .bool _ | .int _ | .float _ | .str _ | .arr _ | .obj _ => isFalse nofun
  | .bool a, b => match b with
    | .bool b => if h : a = b then isTrue (h ▸ rfl) else isFalse fun e => h (Json.bool.inj e)
    | .null | .int _ | .float _ | .str _ | .arr _ | .obj _ => isFalse nofun
  | .int a, b => match b with
    | .int b => if h : a = b then isTrue (h ▸ rfl) else isFalse fun e => h (Json.int.inj e)
    | .null | .bool _ | .float _ | .str _ | .arr _ | .obj _ => isFalse nofun
  | .float a, b => match b with
    | .float b => if h : a = b then isTrue (h ▸ rfl) else isFalse fun e => h (Json.float.inj e)
    | .null | .bool _ | .int _ | .str _ | .arr _ | .obj _ => isFalse nofun
  | .str a, b => match b with
    | .str b => if h : a = b then isTrue (h ▸ rfl) else isFalse fun e => h (Json.str.inj e)
    | .null | .bool _ | .int _ | .float _ | .arr _ | .obj _ => isFalse nofun
  | .arr a, b => match b with
    | .arr b => match decEqItems a b with
      | isTrue h => isTrue (h ▸ rfl)
      | isFalse h => isFalse fun e => h (Json.arr.inj e)
    | .null | .bool _ | .int _ | .float _ | .str _ | .obj _ => isFalse nofun
  | .obj a, b => match b with
    | .obj b => match decEqMembers a b with
      | isTrue h => isTrue (h ▸ rfl)
      | isFalse h => isFalse fun e => h (Json.obj.inj e)
    | .null | .bool _ | .int _ | .float _ | .str _ | .arr _ => isFalse nofun

/-- Equality of lists of values. -/
def decEqItems : (a b : List Json) → Decidable (a = b)
  | [], [] => isTrue rfl
  | [], _ :: _ => isFalse nofun
  | _ :: _, [] => isFalse nofun
  | x :: a, y :: b => match decEq x y with
    | isFalse h => isFalse fun e => h (List.cons.inj e).1
    | isTrue h => match decEqItems a b with
      | isTrue h' => isTrue (h ▸ h' ▸ rfl)
      | isFalse h' => isFalse fun e => h' (List.cons.inj e).2

/-- Equality of lists of members. -/
def decEqMembers : (a b : List (String × Json)) → Decidable (a = b)
  | [], [] => isTrue rfl
  | [], _ :: _ => isFalse nofun
  | _ :: _, [] => isFalse nofun
  | (k, x) :: a, (l, y) :: b =>
    if hk : k = l then
      match decEq x y with
      | isFalse h => isFalse fun e => h (Prod.mk.inj (List.cons.inj e).1).2
      | isTrue h => match decEqMembers a b with
        | isTrue h' => isTrue (hk ▸ h ▸ h' ▸ rfl)
        | isFalse h' => isFalse fun e => h' (List.cons.inj e).2
    else isFalse fun e => hk (Prod.mk.inj (List.cons.inj e).1).1

end

instance : DecidableEq Json := decEq

/-- Whether the value is null. -/
def isNull : Json → Bool
  | .null => true
  | _ => false

/-- The text of a string value. -/
def str? : Json → Option String
  | .str s => some s
  | _ => none

/-- The items of an array. -/
def arr? : Json → Option (List Json)
  | .arr items => some items
  | _ => none

end Json

/-- The members of an object, in the order of their keys. -/
abbrev Members := List (String × Json)

namespace Members

/-- The value under a key. -/
def get? (key : String) : Members → Option Json
  | [] => none
  | (k, v) :: r => if k = key then some v else get? key r

/-- Puts a value under a key, in place of the one that is there. -/
def insert (key : String) (value : Json) : Members → Members
  | [] => [(key, value)]
  | (k, v) :: r =>
    if k = key then (key, value) :: r
    else if key < k then (key, value) :: (k, v) :: r
    else (k, v) :: insert key value r

/-- Takes the value under a key away. -/
def erase (key : String) : Members → Members
  | [] => []
  | (k, v) :: r => if k = key then r else (k, v) :: erase key r

/-- Puts members in one after another, so the last value of a key stays. -/
def insertAll (m : Members) (new : Members) : Members :=
  new.foldl (fun m p => m.insert p.1 p.2) m

/-- The members in the order of their keys; of several values of a key the last stays. -/
def ofList (l : List (String × Json)) : Members := insertAll [] l

@[simp]
theorem get?_insert_self (key : String) (value : Json) (m : Members) :
    (m.insert key value).get? key = some value := by
  induction m with
  | nil => simp [insert, get?]
  | cons p r ih =>
    obtain ⟨k, v⟩ := p
    by_cases hk : k = key
    · simp [insert, get?, hk]
    · by_cases hl : key < k <;> simp [insert, get?, hk, hl, ih]

@[simp]
theorem get?_insert_of_ne {key other : String} (h : other ≠ key) (value : Json) (m : Members) :
    (m.insert key value).get? other = m.get? other := by
  induction m with
  | nil => simp [insert, get?, Ne.symm h]
  | cons p r ih =>
    obtain ⟨k, v⟩ := p
    by_cases hk : k = key
    · subst hk
      simp [insert, get?, Ne.symm h]
    · by_cases hl : key < k
      · simp [insert, get?, hk, hl, Ne.symm h]
      · simp [insert, get?, hk, hl, ih]

theorem erase_insert_of_get?_eq_none {key : String} {m : Members} (h : m.get? key = none)
    (value : Json) : (m.insert key value).erase key = m := by
  induction m with
  | nil => simp [insert, erase]
  | cons p r ih =>
    obtain ⟨k, v⟩ := p
    have hk : k ≠ key := by
      rintro rfl
      simp [get?] at h
    simp only [get?, if_neg hk] at h
    by_cases hl : key < k
    · simp [insert, hk, hl, erase]
    · simp [insert, hk, hl, erase, ih h]

end Members

namespace Json

/-- An object made of members in any order. -/
def object (l : List (String × Json)) : Json := .obj (Members.ofList l)

/-- The value under a key of an object. -/
def get? (key : String) : Json → Option Json
  | .obj m => Members.get? key m
  | _ => none

/-- An array of strings. -/
def strings (l : List String) : Json := .arr (l.map .str)

/-- The value, or null. -/
def ofOption (f : α → Json) : Option α → Json
  | some a => f a
  | none => .null

end Json

end Dialogue
