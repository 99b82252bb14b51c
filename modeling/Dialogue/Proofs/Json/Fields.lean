import Dialogue.Proofs.Json.Record

/-!
# Fields of records

A record is an object or an array, and in both it has fields: what stands under a name, or at a
place (`Json.field?`). Readers take fields in order, and what they read is said field by field, for
both forms at once (`reading_withDefault_bind`, `reading_required_bind`), down to the texts of parts
that may be left out (`map_getD_of_elim_nullable?`). Setting a field of a
record leaves the others as they are (`field?_setField_of_ne`).
-/

namespace Dialogue

namespace Json

variable {α β : Type}

/-- The value of a record's field: what stands under the first of its names that there is, or at
its place. -/
def field? (place : Nat) (names : List String) : Json → Option Json
  | .obj m => names.findSome? fun name => Members.get? name m
  | .arr items => items[place]?
  | _ => none

/-- A record with another value in a field. -/
def setField (j : Json) (place : Nat) (name : String) (value : Json) : Json :=
  match j with
  | .obj m => .obj (Members.insert name value m)
  | .arr items => .arr (items.set place value)
  | j => j

/-- A record without fields from a place on. An object may have any. -/
def endsAt (place : Nat) : Json → Bool
  | .obj _ => true
  | .arr items => items.length ≤ place
  | _ => false

/-- What a reader reads that begins at a place. -/
def reading (place : Nat) (r : FieldReader α) : Json → Option α
  | .obj m => record? r (.obj m)
  | .arr items => record? r (.arr (items.drop place))
  | _ => none

theorem record?_eq_reading (r : FieldReader α) (j : Json) : record? r j = reading 0 r j := by
  cases j <;> rfl

end Json

namespace FieldReader

theorem take_listed (names : List String) (items : List Json) (place : Nat) :
    take names (.listed (items.drop place))
      = some (items[place]?, .listed (items.drop (place + 1))) := by
  by_cases inside : place < items.length
  · rw [List.drop_eq_getElem_cons inside, List.getElem?_eq_getElem inside]
    rfl
  · rw [List.drop_eq_nil_of_le (by omega), List.drop_eq_nil_of_le (by omega),
      List.getElem?_eq_none (by omega)]
    rfl

/-- A field stands under one of its names at most, or it is not read. -/
theorem take_named_of_ne_none {names : List String} {m : Members}
    (read : take names (.named m) ≠ none) :
    take names (.named m) = some (names.findSome? (Members.get? · m), .named m) := by
  have first : names.findSome? (Members.get? · m)
      = (names.filterMap (Members.get? · m)).head? := List.head?_filterMap.symm
  rw [first]
  unfold take at read ⊢
  dsimp only at read ⊢
  split at read
  · rename_i h
    rw [h]
    rfl
  · rename_i h
    rw [h]
    rfl
  · exact absurd rfl read

end FieldReader

namespace Json

variable {α β : Type} {place : Nat} {g : α → FieldReader β}

theorem reading_pure (place : Nat) (a : α) (j : Json) :
    reading place (pure a) j = if j.endsAt place then some a else none := by
  cases j with
  | obj m => rfl
  | arr items =>
    by_cases ends : items.length ≤ place
    · have last : endsAt place (.arr items) = true := decide_eq_true ends
      rw [reading, List.drop_eq_nil_of_le ends, if_pos last]
      rfl
    · have more : ¬ endsAt place (.arr items) = true := by simpa [endsAt] using ends
      rw [reading, List.drop_eq_getElem_cons (Nat.not_le.1 ends), if_neg more]
      rfl
  | _ => rfl

theorem of_reading_pure {a b : α} {j : Json} (read : reading place (pure a) j = some b) :
    a = b := by
  rw [reading_pure] at read
  exact Option.some.inj (Option.ite_none_right_eq_some.1 read).2

/-- A reader that begins with a field reads the field, and then the rest. -/
theorem reading_take_bind {names : List String} {r : FieldReader α} {f : Option Json → Option α}
    (takes : ∀ s, r s = (FieldReader.take names s).bind fun p => (f p.1).map fun a => (a, p.2))
    {j : Json} (read : ∀ m, j = .obj m → FieldReader.take names (.named m) ≠ none) :
    reading place (r >>= g) j
      = (f (j.field? place names)).bind fun a => reading (place + 1) (g a) j := by
  have run (s : Fields) : (r >>= g) s = (r s).bind fun p => g p.1 p.2 := rfl
  cases j with
  | obj m =>
    have taken := FieldReader.take_named_of_ne_none (read m rfl)
    simp only [reading, record?, run, takes, taken, Option.bind_some, field?]
    cases f (names.findSome? fun name => Members.get? name m) <;> rfl
  | arr items =>
    simp only [reading, record?, run, takes, FieldReader.take_listed, Option.bind_some, field?]
    cases f items[place]? <;> rfl
  | _ => exact (Option.bind_fun_none _).symm

section Readers

variable {names : List String} {name : String} {standard : α} {f : Json → Option α} {b : β}
  {j : Json}

theorem take_single_ne_none (name : String) (m : Members) :
    FieldReader.take [name] (.named m) ≠ none := by
  rw [FieldReader.take_named fun _ h => by cases h]
  exact Option.some_ne_none _

theorem withDefault_eq_take (s : Fields) : FieldReader.withDefault names standard f s
    = (FieldReader.take names s).bind fun p =>
      (p.1.elim (some standard) f).map fun a => (a, p.2) := by
  unfold FieldReader.withDefault
  rcases FieldReader.take names s with _ | ⟨_ | v, t⟩ <;> rfl

theorem required_eq_take (s : Fields) : FieldReader.required names f s
    = (FieldReader.take names s).bind fun p => (p.1.bind f).map fun a => (a, p.2) := by
  unfold FieldReader.required
  rcases FieldReader.take names s with _ | ⟨_ | v, t⟩ <;> rfl

theorem reading_withDefault_bind (j : Json) :
    reading place (FieldReader.withDefault [name] standard f >>= g) j
      = ((j.field? place [name]).elim (some standard) f).bind
        fun a => reading (place + 1) (g a) j :=
  reading_take_bind (f := fun o => o.elim (some standard) f) withDefault_eq_take
    fun m _ => take_single_ne_none name m

theorem reading_required_bind (j : Json) :
    reading place (FieldReader.required [name] f >>= g) j
      = ((j.field? place [name]).bind f).bind fun a => reading (place + 1) (g a) j :=
  reading_take_bind (f := fun o => o.bind f) required_eq_take
    fun m _ => take_single_ne_none name m

/-- Where a field that goes by several names was read, it stood under one of them at most. -/
theorem of_reading_withDefault_bind
    (read : reading place (FieldReader.withDefault names standard f >>= g) j = some b) :
    ∃ a, (j.field? place names).elim (some standard) f = some a
      ∧ reading (place + 1) (g a) j = some b := by
  refine Option.bind_eq_some_iff.1 ((reading_take_bind (f := fun o => o.elim (some standard) f)
    withDefault_eq_take ?_).symm.trans read)
  rintro m rfl none_
  have run (s : Fields) : (FieldReader.withDefault names standard f >>= g) s
    = (FieldReader.withDefault names standard f s).bind fun p => g p.1 p.2 := rfl
  simp [reading, record?, run, withDefault_eq_take, none_] at read

end Readers

/-! ## What is read of a field -/

/-- The value of a record's field, null where there is none. -/
def under (place : Nat) (names : List String) (j : Json) : Json :=
  (j.field? place names).getD .null

/-- The text of a record's field, empty where there is none. -/
def textAt (place : Nat) (names : List String) (j : Json) : String :=
  (j.under place names).str?.getD ""

section Values

variable {f : Json → Option α} {o : Option Json}

/-- What a field is read as that may be left out or null. -/
theorem of_elim_nullable? {a : Option α} (read : o.elim (some none) (nullable? f) = some a) :
    a = none ∧ o.getD .null = .null ∨ ∃ b, a = some b ∧ f (o.getD .null) = some b := by
  cases o with
  | none => exact .inl ⟨(Option.some.inj read).symm, rfl⟩
  | some j =>
    change nullable? f j = some a at read
    unfold nullable? at read
    split at read
    · exact .inl ⟨(Option.some.inj read).symm, rfl⟩
    · obtain ⟨b, hb, rfl⟩ := Option.map_eq_some_iff.1 read
      exact .inr ⟨b, rfl, hb⟩

theorem str?_of_elim_nullable? {s : Option String}
    (read : o.elim (some none) (nullable? str?) = some s) : (o.getD .null).str? = s := by
  obtain ⟨rfl, null⟩ | ⟨s, rfl, hs⟩ := of_elim_nullable? read
  · rw [null]
    rfl
  · exact hs

theorem str?_of_elim {s : String} (read : o.elim (some "") str? = some s) :
    (o.getD .null).str?.getD "" = s := by
  cases o with
  | none => exact Option.some.inj read
  | some j =>
    change j.str? = some s at read
    rw [Option.getD_some, read, Option.getD_some]

/-- A text of a part that may be left out or null is empty where the part is. -/
theorem map_getD_of_elim_nullable? {a : Option α} (text : α → String) {shown : Json → String}
    (fits : ∀ {j b}, f j = some b → text b = shown j) (empty : shown .null = "")
    (read : o.elim (some none) (nullable? f) = some a) :
    (a.map text).getD "" = shown (o.getD .null) := by
  obtain ⟨rfl, null⟩ | ⟨b, rfl, hb⟩ := of_elim_nullable? read
  · rw [null, empty]
    rfl
  · exact fits hb

end Values

/-! ## Setting a field -/

theorem field?_setField_self {name : String} {j value old : Json}
    (there : j.field? place [name] = some old) :
    (j.setField place name value).field? place [name] = some value := by
  cases j with
  | obj m => simp [setField, field?]
  | arr items =>
    have inside : place < items.length := (List.getElem?_eq_some_iff.1 there).1
    simp [setField, field?, inside]
  | _ => cases there

theorem field?_setField_of_ne {other : Nat} {name name' : String} (apart : other ≠ place)
    (named : name' ≠ name) (value j : Json) :
    (j.setField place name value).field? other [name'] = j.field? other [name'] := by
  cases j with
  | obj m => simp [setField, field?, Members.get?_insert_of_ne named]
  | arr items => simp [setField, field?, List.getElem?_set_ne (Ne.symm apart)]
  | _ => rfl

@[simp]
theorem endsAt_setField {last : Nat} (name : String) (value j : Json) :
    (j.setField place name value).endsAt last = j.endsAt last := by
  cases j <;> simp [setField, endsAt]

end Json

end Dialogue
