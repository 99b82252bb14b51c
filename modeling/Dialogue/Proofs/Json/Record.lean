import Dialogue.Json.Record
import Dialogue.Proofs.Text.Digits

/-!
# Records are read back

An object made of members in any order holds under a key what was put there last (`get?_ofList`).
Reading fields by their names leaves the members as they are, so what a reader reads off an object
is said field by field (`Reads`): a field that was written is read if its value is. A record that
was written so is read back whole (`record?_obj`).
-/

namespace Dialogue

namespace Members

theorem get?_insertAll (key : String) : ∀ (l m : Members),
    (m.insertAll l).get? key = (l.reverse.lookup key).or (m.get? key)
  | [], _ => rfl
  | (k, v) :: l, m => by
    have rest := get?_insertAll key l (m.insert k v)
    rw [List.reverse_cons, List.lookup_append, Option.or_assoc]
    refine rest.trans (congrArg _ ?_)
    by_cases same : key = k
    · subst same
      simp
    · rw [get?_insert_of_ne same, List.lookup_cons, beq_eq_false_iff_ne.2 same]
      rfl

@[simp]
theorem get?_ofList (key : String) (l : Members) : (ofList l).get? key = l.reverse.lookup key := by
  rw [ofList, get?_insertAll]
  exact Option.or_none

@[simp]
theorem get?_erase_of_ne {key other : String} (h : other ≠ key) : ∀ m : Members,
    (m.erase key).get? other = m.get? other
  | [] => rfl
  | (k, v) :: m => by
    unfold erase
    by_cases same : k = key
    · subst same
      simp [get?, Ne.symm h]
    · simp [get?, same, get?_erase_of_ne h m]

end Members

namespace Json

variable {α : Type}

attribute [simp] List.lookup_append

@[simp]
theorem lookup_cons_of_ne {key other : String} (h : other ≠ key) (value : Json) (l : Members) :
    ((key, value) :: l).lookup other = l.lookup other := by
  rw [List.lookup_cons, beq_eq_false_iff_ne.2 h]

@[simp]
theorem reverse_member? (key : String) (f : α → Json) (a : Option α) :
    (member? key f a).reverse = member? key f a := by
  cases a <;> rfl

@[simp]
theorem lookup_member?_self (key : String) (f : α → Json) (a : Option α) :
    (member? key f a).lookup key = a.map f := by
  cases a <;> simp [member?]

@[simp]
theorem lookup_member?_of_ne {key other : String} (h : other ≠ key) (f : α → Json)
    (a : Option α) : (member? key f a).lookup other = none := by
  cases a <;> simp [member?, h]

@[simp]
theorem str?_str (s : String) : str? (.str s) = some s := rfl

@[simp]
theorem bool?_bool (b : Bool) : bool? (.bool b) = some b := rfl

@[simp]
theorem number?_float (x : Binary64) : number? (.float x) = some x := rfl

theorem integer?_of_has {r : Text.Range} {n : Int} (h : r.has n = true) :
    integer? r (.int n) = some n := if_pos h

theorem uint32?_ofUInt32 (n : UInt32) : uint32? (ofUInt32 n) = some n := by
  have has : Text.Range.unsigned32.has n.toNat = true :=
    Text.Range.has_iff.2 ⟨Int.natCast_nonneg _, Int.ofNat_le.2 (Nat.le_of_lt_succ n.toNat_lt)⟩
  simp [uint32?, ofUInt32, integer?_of_has has]

theorem uint64?_ofUInt64 (n : UInt64) : uint64? (ofUInt64 n) = some n := by
  have has : Text.Range.unsigned64.has n.toNat = true :=
    Text.Range.has_iff.2 ⟨Int.natCast_nonneg _, Int.ofNat_le.2 (Nat.le_of_lt_succ n.toNat_lt)⟩
  simp [uint64?, ofUInt64, integer?_of_has has]

theorem list?_map_of {β : Type} {f : Json → Option β} {g : α → Json} {h : α → β} {l : List α}
    (read : ∀ a ∈ l, f (g a) = some (h a)) : list? f (.arr (l.map g)) = some (l.map h) := by
  unfold list?
  induction l with
  | nil => rfl
  | cons a l ih =>
    obtain ⟨first, rest⟩ := List.forall_mem_cons.1 read
    simp [first, ih rest]

/-- A list is read if its items are. -/
theorem list?_map {f : Json → Option α} {g : α → Json} (read : ∀ a, f (g a) = some a)
    (l : List α) : list? f (.arr (l.map g)) = some l :=
  (list?_map_of (h := id) fun a _ => read a).trans (congrArg some l.map_id)

/-- A value that may be left out is read if it is, and is not null. -/
theorem elim_nullable? {f : Json → Option α} {g : α → Json} (read : ∀ a, f (g a) = some a)
    (present : ∀ a, (g a).isNull = false) (a : Option α) :
    a.elim (some none) (nullable? f ∘ g) = some a := by
  cases a with
  | none => rfl
  | some a =>
    show nullable? f (g a) = _
    unfold nullable?
    split
    · have null := present a
      simp_all [isNull]
    · rw [read]
      rfl

@[simp]
theorem elim_nullable?_str (s : Option String) :
    s.elim (some none) (nullable? str? ∘ .str) = some s :=
  elim_nullable? (g := .str) (fun _ => rfl) (fun _ => rfl) s

end Json

namespace FieldReader

variable {α β : Type} {m : Members}

/-- What is read off members by their names. -/
def Reads (m : Members) (r : FieldReader α) (a : α) : Prop := r (.named m) = some (a, .named m)

@[simp]
theorem reads_pure {a b : α} : Reads m (pure a) b ↔ a = b := by
  constructor
  · intro h
    injection h with h
    injection h
  · rintro rfl
    rfl

theorem reads_bind {r : FieldReader α} {f : α → FieldReader β} {v : Option α} {b : β}
    (first : r (.named m) = v.map fun a => (a, .named m)) :
    Reads m (r >>= f) b ↔ ∃ a, v = some a ∧ Reads m (f a) b := by
  have run : (r >>= f) (.named m) = (r (.named m)).bind fun p => f p.1 p.2 := rfl
  unfold Reads
  rw [run, first]
  cases v <;> simp

/-- A field that stands under none but the first of its names is the one taken. -/
theorem take_named {key : String} {names : List String} (others : ∀ n ∈ names, m.get? n = none) :
    take (key :: names) (.named m) = some (m.get? key, .named m) := by
  have rest : names.filterMap (Members.get? · m) = [] := List.filterMap_eq_nil_iff.2 others
  unfold take
  cases found : m.get? key <;> simp [found, rest]

section Fields

variable {key other : String} {f : Json → Option α} {standard : α} {b : β}

@[simp]
theorem reads_required_bind {g : α → FieldReader β} : Reads m (required [key] f >>= g) b
    ↔ ∃ a, (m.get? key).bind f = some a ∧ Reads m (g a) b := by
  refine reads_bind ?_
  unfold required
  rw [take_named fun _ h => by cases h]
  cases m.get? key <;> rfl

@[simp]
theorem reads_required {a : α} :
    Reads m (required [key] f) a ↔ (m.get? key).bind f = some a := by
  have last : Reads m (required [key] f >>= pure) a
      ↔ ∃ c, (m.get? key).bind f = some c ∧ Reads m (pure c) a := reads_required_bind
  rw [bind_pure] at last
  simpa using last

theorem withDefault_named {names : List String} (others : ∀ n ∈ names, m.get? n = none) :
    withDefault (key :: names) standard f (.named m)
      = ((m.get? key).elim (some standard) f).map fun a => (a, .named m) := by
  unfold withDefault
  rw [take_named others]
  cases m.get? key <;> rfl

@[simp]
theorem reads_withDefault_bind {g : α → FieldReader β} :
    Reads m (withDefault [key] standard f >>= g) b
      ↔ ∃ a, (m.get? key).elim (some standard) f = some a ∧ Reads m (g a) b :=
  reads_bind (withDefault_named fun _ h => by cases h)

/-- A record is written under the first of the names that a field goes by. -/
@[simp]
theorem reads_withDefault_alias_bind {g : α → FieldReader β} (absent : m.get? other = none) :
    Reads m (withDefault [key, other] standard f >>= g) b
      ↔ ∃ a, (m.get? key).elim (some standard) f = some a ∧ Reads m (g a) b :=
  reads_bind (withDefault_named fun n h => by rwa [List.mem_singleton.1 h])

@[simp]
theorem reads_optional_bind {g : Option α → FieldReader β} :
    Reads m (FieldReader.optional [key] f >>= g) b
      ↔ ∃ a, (m.get? key).elim (some none) (Json.nullable? f) = some a ∧ Reads m (g a) b :=
  reads_withDefault_bind

end Fields

/-! ## What any document gives -/

/-- Whatever it is read off, what is read is one of `ok`. -/
def Gives (r : FieldReader α) (ok : α → Prop) : Prop := ∀ s a t, r s = some (a, t) → ok a

variable {ok : α → Prop} {post : β → Prop}

theorem gives_true {r : FieldReader α} : Gives r fun _ => True := fun _ _ _ _ => trivial

theorem gives_pure {a : α} (h : ok a) : Gives (pure a) ok := by
  intro s b t read
  cases read
  exact h

theorem Gives.bind {r : FieldReader α} {f : α → FieldReader β} (first : Gives r ok)
    (rest : ∀ a, ok a → Gives (f a) post) : Gives (r >>= f) post := by
  intro s b t read
  obtain ⟨⟨a, u⟩, here, later⟩ := Option.bind_eq_some_iff.1 read
  exact rest a (first s a u here) u b t later

theorem gives_withDefault {names : List String} {standard : α} {f : Json → Option α}
    (default : ok standard) (read : ∀ j a, f j = some a → ok a) :
    Gives (withDefault names standard f) ok := by
  intro s a t h
  unfold withDefault at h
  split at h
  · obtain ⟨b, hb, hp⟩ := Option.map_eq_some_iff.1 h
    cases hp
    exact read _ _ hb
  · cases h
    exact default
  · cases h

end FieldReader

namespace Json

theorem of_record? {α : Type} {r : FieldReader α} {ok : α → Prop} (gives : FieldReader.Gives r ok)
    {j : Json} {a : α} (read : record? r j = some a) : ok a := by
  unfold record? at read
  split at read
  · obtain ⟨⟨b, t⟩, h, rfl⟩ := Option.map_eq_some_iff.1 read
    exact gives _ _ _ h
  · split at read
    · cases read
      exact gives _ _ _ ‹_›
    · cases read
  · cases read

theorem forall_mem_of_mapM {α : Type} {f : Json → Option α} {ok : α → Prop}
    (read : ∀ j a, f j = some a → ok a) : ∀ {items : List Json} {l : List α},
      items.mapM f = some l → ∀ a ∈ l, ok a
  | [], _, h => by
    cases h
    exact List.forall_mem_nil _
  | j :: items, l, h => by
    rw [List.mapM_cons] at h
    obtain ⟨a, first, h⟩ := Option.bind_eq_some_iff.1 h
    obtain ⟨r, rest, h⟩ := Option.bind_eq_some_iff.1 h
    cases h
    exact List.forall_mem_cons.2 ⟨read j a first, forall_mem_of_mapM read rest⟩

theorem forall_mem_of_list? {α : Type} {f : Json → Option α} {ok : α → Prop}
    (read : ∀ j a, f j = some a → ok a) {j : Json} {l : List α} (h : list? f j = some l) :
    ∀ a ∈ l, ok a := by
  unfold list? at h
  split at h
  · exact forall_mem_of_mapM read h
  · cases h

/-- A record that is read off its members is read. -/
theorem record?_obj {α : Type} {r : FieldReader α} {m : Members} {a : α}
    (h : FieldReader.Reads m r a) : record? r (.obj m) = some a := by
  show (r (.named m)).map (·.1) = _
  rw [show r (.named m) = _ from h]
  rfl

theorem splitTag?_object {key t : String} {l : Members}
    (found : l.reverse.lookup key = some (.str t)) :
    splitTag? key (.object l) = some (t, .obj (Members.erase key (.ofList l))) := by
  have stands : Members.get? key (.ofList l) = some (.str t) := (Members.get?_ofList ..).trans found
  simp only [object, splitTag?, stands]

end Json

end Dialogue
