import Dialogue.Proofs.Template.Reading

/-!
# Templates inside documents

What resolving does to a document, whatever the values are. A document is looked at part by part:
`Json.part?` goes into the n-th item or member again and again, and `Json.frame` is what a part is
without what is inside it. A slot is a text with a placeholder. Resolving leaves every frame that is
neither in a slot nor the slot itself, and puts one value in place of each slot: the value at the
path where the text is one placeholder between blanks, else a text. So two results differ from the
document and from each other in the slots alone (`resolveDocument?_frames`), and no value adds,
takes away or changes anything beside its slot.
-/

namespace Dialogue

/-- A value without what is inside it. -/
inductive Frame where
  | null
  | bool (b : Bool)
  | int (n : Int)
  | float (x : Binary64)
  | str (s : String)
  | arr (length : Nat)
  | obj (keys : List String)

namespace Json

/-- What is inside a value: the items of an array or the values of an object, in order. -/
def parts : Json → List Json
  | .arr items => items
  | .obj members => members.map Prod.snd
  | _ => []

/-- A value without what is inside it. -/
def frame : Json → Frame
  | .null => .null
  | .bool b => .bool b
  | .int n => .int n
  | .float x => .float x
  | .str s => .str s
  | .arr items => .arr items.length
  | .obj members => .obj (members.map Prod.fst)

/-- The part that is reached by going inside again and again. -/
def part? : Json → List Nat → Option Json
  | v, [] => some v
  | v, n :: p => v.parts[n]?.bind fun u => u.part? p

/-- The frame of a part. -/
def frame? (v : Json) (p : List Nat) : Option Frame := (v.part? p).map frame

end Json

namespace Template

open Text

variable {scope v u : Json} {s : String} {w : List Char}

/-! ## Slots -/

/-- A text with a placeholder. -/
def HasSlot (s : String) : Prop := ∃ front w back, Inner w ∧ s.toList = front ++ marked w ++ back

/-- A text that is one placeholder, blanks around it allowed. -/
def Sole (w : List Char) (s : String) : Prop := Inner w ∧ ∃ front back,
  (∀ c ∈ front, isBlank c = true) ∧ (∀ c ∈ back, isBlank c = true)
    ∧ s.toList = front ++ marked w ++ back

/-- What stands for a text with a placeholder. -/
inductive Fills (scope : Json) (s : String) : Json → Prop
  | value {w : List Char} {v : Json} : Sole w s →
    scope.lookup? (trim (String.ofList w)) = some v → Fills scope s v
  | missing {w : List Char} : Sole w s →
    scope.lookup? (trim (String.ofList w)) = none → Fills scope s (.str "")
  | text : (∀ w, ¬ Sole w s) → Fills scope s (.str (resolve s scope))

theorem bare_marked (w : List Char) : Bare isBlank (marked w) where
  head c hc := by
    cases hc
    decide
  last c hc := by
    have ends : (marked w).getLast? = some '}' := by simp [marked, List.getLast?_cons]
    rw [ends] at hc
    cases hc
    decide

theorem trimChars_eq_marked_iff {s : List Char} : trimChars s = marked w ↔ ∃ front back,
    (∀ c ∈ front, isBlank c = true) ∧ (∀ c ∈ back, isBlank c = true)
      ∧ s = front ++ marked w ++ back := by
  constructor
  · intro h
    obtain ⟨front, back, hfront, hback, e⟩ := exists_padding s
    exact ⟨front, back, hfront, hback, h ▸ e⟩
  · rintro ⟨front, back, hfront, hback, rfl⟩
    exact dropBoth_padded hfront hback (List.cons_ne_nil _ _) (bare_marked w)

theorem sole?_eq_some_iff {p : String} :
    sole? s = some p ↔ ∃ w, Sole w s ∧ p = String.ofList (path w) := by
  unfold sole? Sole
  simp only [← trimChars_eq_marked_iff]
  constructor
  · intro h
    split at h
    · rename_i w hp
      obtain ⟨hw, e⟩ := placeholder?_eq_some_iff.1 hp
      rw [List.append_nil] at e
      cases h
      exact ⟨w, ⟨hw, e⟩, rfl⟩
    · cases h
  · rintro ⟨w, ⟨hw, e⟩, rfl⟩
    rw [placeholder?_eq_some_iff.2 ⟨hw, by rw [e, List.append_nil]⟩]

theorem lookup?_path (scope : Json) (w : List Char) :
    scope.lookup? (String.ofList (path w)) = scope.lookup? (trim (String.ofList w)) := by
  rw [trim, String.toList_ofList, ← trimChars_path, lookup?_trimChars]

theorem resolveLeaf_of_sole (sole : Sole w s) : resolveLeaf scope s
    = (scope.lookup? (trim (String.ofList w))).getD (.str "") := by
  rw [resolveLeaf, sole?_eq_some_iff.2 ⟨w, sole, rfl⟩]
  dsimp only
  rw [lookup?_path]

theorem resolveLeaf_of_not_sole (h : ∀ w, ¬ Sole w s) :
    resolveLeaf scope s = .str (resolve s scope) := by
  have none : sole? s = none := Option.eq_none_iff_forall_ne_some.2 fun p hp => by
    obtain ⟨w, sole, -⟩ := sole?_eq_some_iff.1 hp
    exact h w sole
  rw [resolveLeaf, none]

/-- A text is filled in one way. -/
theorem fills_iff {x : Json} : Fills scope s x ↔ x = resolveLeaf scope s := by
  constructor
  · intro h
    cases h with
    | value sole value => rw [resolveLeaf_of_sole sole, value, Option.getD_some]
    | missing sole value => rw [resolveLeaf_of_sole sole, value, Option.getD_none]
    | text none => rw [resolveLeaf_of_not_sole none]
  · rintro rfl
    by_cases h : ∃ w, Sole w s
    · obtain ⟨w, sole⟩ := h
      rw [resolveLeaf_of_sole sole]
      cases value : scope.lookup? (trim (String.ofList w)) with
      | none => exact .missing sole value
      | some v => exact .value sole value
    · rw [resolveLeaf_of_not_sole fun w sole => h ⟨w, sole⟩]
      exact .text fun w sole => h ⟨w, sole⟩

theorem resolve_of_not_hasSlot (h : ¬ HasSlot s) : resolve s scope = s := by
  have unread : ∀ r : List Char, (∃ front, s.toList = front ++ r) → resolveChars scope r = r := by
    intro r
    induction r with
    | nil => exact fun _ => by rw [resolveChars]
    | cons c r ih =>
      rintro ⟨front, e⟩
      have none : placeholder? (c :: r) = none := by
        rw [placeholder?_eq_none_iff]
        intro w rest hw here
        exact h ⟨front, w, rest, hw, by rw [e, here, List.append_assoc]⟩
      rw [resolveChars_of_none scope none, ih ⟨front ++ [c], by simp [e]⟩]
  rw [resolve, unread s.toList ⟨[], rfl⟩, String.ofList_toList]

theorem resolveLeaf_of_not_hasSlot (h : ¬ HasSlot s) : resolveLeaf scope s = .str s := by
  rw [resolveLeaf_of_not_sole, resolve_of_not_hasSlot h]
  rintro w ⟨hw, front, back, -, -, e⟩
  exact h ⟨front, w, back, hw, e⟩

/-! ## Parts -/

theorem resolveItems_eq_map (scope : Json) :
    ∀ items, resolveItems scope items = items.map (resolveJson scope)
  | [] => rfl
  | v :: r => congrArg (resolveJson scope v :: ·) (resolveItems_eq_map scope r)

theorem resolveMembers_eq_map (scope : Json) : ∀ members,
    resolveMembers scope members = members.map fun p => (p.1, resolveJson scope p.2)
  | [] => rfl
  | (k, v) :: r => congrArg ((k, resolveJson scope v) :: ·) (resolveMembers_eq_map scope r)

/-- A value is a slot. -/
def IsSlot (v : Json) : Prop := ∃ s, v = .str s ∧ HasSlot s

/-- A place that is no slot of a document and not inside one. -/
def Outside (document : Json) (p : List Nat) : Prop :=
  ∀ q u, q <+: p → document.part? q = some u → ¬ IsSlot u

theorem parts_resolveJson (h : ¬ IsSlot v) :
    (resolveJson scope v).parts = v.parts.map (resolveJson scope) := by
  cases v with
  | str s =>
    rw [resolveJson, resolveLeaf_of_not_hasSlot fun slot => h ⟨s, rfl, slot⟩]
    rfl
  | arr items => exact resolveItems_eq_map scope items
  | obj members => simp [resolveJson, Json.parts, resolveMembers_eq_map]
  | _ => rfl

theorem frame_resolveJson (h : ¬ IsSlot v) : (resolveJson scope v).frame = v.frame := by
  cases v with
  | str s => rw [resolveJson, resolveLeaf_of_not_hasSlot fun slot => h ⟨s, rfl, slot⟩]
  | arr items => simp [resolveJson, Json.frame, resolveItems_eq_map]
  | obj members => simp [resolveJson, Json.frame, resolveMembers_eq_map]
  | _ => rfl

theorem not_isSlot_of_parts {n : Nat} (h : v.parts[n]? = some u) : ¬ IsSlot v := by
  rintro ⟨s, rfl, -⟩
  cases h

/-- What is reached in a document is resolved where it stands. -/
theorem part?_resolveJson {p : List Nat} (h : v.part? p = some u) :
    (resolveJson scope v).part? p = some (resolveJson scope u) := by
  induction p generalizing v with
  | nil =>
    cases h
    rfl
  | cons n p ih =>
    obtain ⟨part, here, deeper⟩ := Option.bind_eq_some_iff.1 h
    rw [Json.part?, parts_resolveJson (not_isSlot_of_parts here), List.getElem?_map, here,
      Option.map_some, Option.bind_some]
    exact ih deeper

/-- What is reached in a result without entering a slot is reached in the document. -/
theorem part?_resolveJson_eq_none {p : List Nat} (h : v.part? p = none) (outside : Outside v p) :
    (resolveJson scope v).part? p = none := by
  induction p generalizing v with
  | nil => cases h
  | cons n p ih =>
    have here := outside [] v (List.nil_prefix) rfl
    rw [Json.part?, parts_resolveJson here, List.getElem?_map]
    cases part : v.parts[n]? with
    | none => rfl
    | some u =>
      have deeper : ∀ q, v.part? (n :: q) = u.part? q := fun q => by
        rw [Json.part?, part, Option.bind_some]
      rw [Option.map_some, Option.bind_some]
      refine ih (deeper p ▸ h) fun q u' hq hu' => ?_
      exact outside (n :: q) u' (List.prefix_cons_inj n |>.2 hq) (deeper q ▸ hu')

theorem frame?_resolveJson {p : List Nat} (outside : Outside v p) :
    (resolveJson scope v).frame? p = v.frame? p := by
  unfold Json.frame?
  cases part : v.part? p with
  | none => rw [part?_resolveJson_eq_none part outside]
  | some u =>
    rw [part?_resolveJson part, Option.map_some, Option.map_some,
      frame_resolveJson (outside p u (List.prefix_refl p) part)]

/-! ## Two results -/

/-- In a slot of a document stands what fills its text, and nothing else. -/
theorem part?_slot {document : Json} {p : List Nat} (part : document.part? p = some (.str s))
    (x : Json) : (resolveJson scope document).part? p = some x ↔ Fills scope s x := by
  rw [part?_resolveJson part, fills_iff, Option.some.injEq, resolveJson]
  exact eq_comm

/-- Whatever values two scopes hold, both make of a text that is a document one that has the
document's frames outside its slots, and in each slot what fills the slot's text. -/
theorem resolveDocument?_frames {text : String} {document : Json}
    (h : Json.parse? text = some document) (one other : Json) : ∃ a b,
      resolveDocument? text one = some a ∧ resolveDocument? text other = some b
      ∧ (∀ p, Outside document p →
          a.frame? p = document.frame? p ∧ b.frame? p = document.frame? p)
      ∧ ∀ p s, document.part? p = some (.str s) → HasSlot s →
          (∀ x, a.part? p = some x ↔ Fills one s x)
            ∧ ∀ y, b.part? p = some y ↔ Fills other s y := by
  refine ⟨resolveJson one document, resolveJson other document, ?_, ?_,
    fun p outside => ⟨frame?_resolveJson outside, frame?_resolveJson outside⟩,
    fun p s part _ => ⟨part?_slot part, part?_slot part⟩⟩
  · rw [resolveDocument?, h]
  · rw [resolveDocument?, h]

namespace OrderBody

def text : String := "\x7b\"count\": \" \x7b\x7b count \x7d\x7d \", " ++
  "\"items\": [\"Hi \x7b\x7bname\x7d\x7d!\", 7], \"note\": \"\x7bx\x7d\"\x7d"

def document : Json := .obj [("count", .str " \x7b\x7b count \x7d\x7d "),
  ("items", .arr [.str "Hi \x7b\x7bname\x7d\x7d!", .int 7]), ("note", .str "\x7bx\x7d")]

def plain : Json := .obj [("count", .int 3), ("name", .str "Asha")]

/-- Values that look like parts of a document and like placeholders. -/
def hostile : Json := .obj [("count", .obj [("note", .str "\x7b\x7bname\x7d\x7d")]),
  ("name", .str "\", 8], \"note\": \"\x7b\x7bcount\x7d\x7d")]

end OrderBody

open OrderBody in
theorem frames_orderBody : Json.parse? text = some document ∧ ∃ a b,
    resolveDocument? text plain = some a ∧ resolveDocument? text hostile = some b
    ∧ (∀ p, Outside document p → a.frame? p = document.frame? p ∧ b.frame? p = document.frame? p)
    ∧ ∀ p s, document.part? p = some (.str s) → HasSlot s →
      (∀ x, a.part? p = some x ↔ Fills plain s x)
        ∧ ∀ y, b.part? p = some y ↔ Fills hostile s y := by
  have parsed : Json.parse? text = some document := by decide +kernel
  exact ⟨parsed, resolveDocument?_frames parsed plain hostile⟩

open OrderBody in
example : resolveDocument? text hostile = some (.obj [
    ("count", .obj [("note", .str "\x7b\x7bname\x7d\x7d")]),
    ("items", .arr [.str "Hi \", 8], \"note\": \"\x7b\x7bcount\x7d\x7d!", .int 7]),
    ("note", .str "\x7bx\x7d")]) := by
  decide +kernel

end Template

end Dialogue
