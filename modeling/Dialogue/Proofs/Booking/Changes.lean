import Mathlib.Algebra.Group.Int.Defs
import Mathlib.Algebra.Group.Nat.Defs
import Mathlib.Logic.Relation
import Dialogue.Booking.Table

/-!
# Changes of the tables of appointments

Tables change by one operation at a time. What an operation can do to them is one of a few effects
(`effect_change`): a row is added under the next number, a booking is cancelled or moved, or
nothing happens. Rows are never removed, so there are as many rows as numbers were handed out.

While these fit 63 bits the numbers of all rows are distinct (`wellNumbered_changeAll`), and a
number finds at most one booking.
-/

namespace Dialogue

/-- An operation on tables of appointments. -/
inductive BookingChange where
  | addDepartment (account : AccountId) (name : String) (description : Option String)
  | addStaff (account : AccountId) (department : DepartmentId) (name : String)
  | addSlot (account : AccountId) (staff : StaffId) (weekday : Weekday) (startTime : TimeOfDay)
    (capacity : UInt32)
  | create (request : BookingRequest) (now : Instant)
  | cancel (account : AccountId) (id : BookingId)
  | reschedule (account : AccountId) (id : BookingId) (slot : TimeSlot) (date : Date)

namespace BookingTables

/-- The tables after an operation. -/
def change (t : BookingTables) : BookingChange → BookingTables
  | .addDepartment account name description => (t.addDepartment account name description).2
  | .addStaff account department name => (t.addStaff account department name).2
  | .addSlot account staff weekday startTime capacity =>
    (t.addSlot account staff weekday startTime capacity).2
  | .create request now => (t.create request now).2
  | .cancel account id => (t.cancel account id).2
  | .reschedule account id slot date => (t.reschedule account id slot date).2

/-- The tables after operations, one after another. -/
def changeAll (t : BookingTables) (changes : List BookingChange) : BookingTables :=
  changes.foldl change t

/-- The number that the next row gets. -/
def nextNumber (t : BookingTables) : Int64 := t.lastNumber + 1

/-- The numbers of all rows. -/
def numbers (t : BookingTables) : List Int64 :=
  t.departments.map (·.id.number) ++ (t.staff.map (·.id.number) ++
    (t.slots.map (·.id.number) ++ t.bookings.map (·.id.number)))

/-- The number of rows, which is the number of numbers that were handed out. -/
def rowCount (t : BookingTables) : Nat := t.numbers.length

/-- What an operation can do to tables. -/
inductive Effect (t : BookingTables) : BookingTables → Prop
  | department (d : Department) : d.id = ⟨t.nextNumber⟩ →
    Effect t { t with departments := t.departments ++ [d], lastNumber := t.nextNumber }
  | staff (s : Staff) : s.id = ⟨t.nextNumber⟩ →
    Effect t { t with staff := t.staff ++ [s], lastNumber := t.nextNumber }
  | slot (s : TimeSlot) : s.id = ⟨t.nextNumber⟩ →
    Effect t { t with slots := t.slots ++ [s], lastNumber := t.nextNumber }
  | booking (b : Booking) : b.id = ⟨t.nextNumber⟩ →
    (t.availability b.staffId b.date b.time none).available = true →
    Effect t { t with bookings := t.bookings ++ [b], lastNumber := t.nextNumber }
  | cancelled (account : AccountId) (id : BookingId) :
    Effect t (t.update (stands account id) fun b => { b with status := .cancelled })
  | moved (account : AccountId) (id : BookingId) (b : Booking) (slot : TimeSlot) (date : Date) :
    t.bookings.find? (stands account id) = some b →
    (t.availability slot.staffId date slot.startTime (some id)).available = true →
    Effect t (t.update (stands account id) fun b => moved b slot date)
  | nothing : Effect t t

theorem effect_change (t : BookingTables) (c : BookingChange) : Effect t (t.change c) := by
  cases c with
  | addDepartment account name description => exact .department ⟨_, _, _, _, _⟩ rfl
  | addStaff account department name => exact .staff ⟨_, _, _, _, _⟩ rfl
  | addSlot account staff weekday startTime capacity => exact .slot ⟨_, _, _, _, _, _, _⟩ rfl
  | create r now =>
    unfold change create
    dsimp only
    split
    · rename_i room
      exact .booking _ rfl room
    · exact .nothing
  | cancel account id =>
    unfold change cancel
    dsimp only
    split
    · exact .cancelled account id
    · exact .nothing
  | reschedule account id slot date =>
    unfold change reschedule
    dsimp only
    split
    · exact .nothing
    · rename_i b hb
      split
      · rename_i room
        exact .moved account id b slot date hb room
      · exact .nothing

theorem effect_answer (now : Instant) (q : BookingQuery) (t : BookingTables) :
    Effect t (answer now q t).2 := by
  cases q with
  | create r => exact effect_change t (.create r now)
  | cancel account id => exact effect_change t (.cancel account id)
  | reschedule account id slot date => exact effect_change t (.reschedule account id slot date)
  | _ => exact .nothing

/-- What operations do to tables one after another is one effect after another. -/
theorem effects_foldl {α : Type} {step : BookingTables → α → BookingTables}
    (effect : ∀ t a, Effect t (step t a)) : ∀ (l : List α) (t : BookingTables),
      Relation.ReflTransGen Effect t (l.foldl step t)
  | [], _ => .refl
  | a :: l, t => .head (effect t a) (effects_foldl effect l (step t a))

/-! ## Changing one booking -/

theorem map_updateFirst {β : Type} {p : Booking → Bool} {f : Booking → Booking} {g : Booking → β}
    (hg : ∀ b, g (f b) = g b) : ∀ l : List Booking, (updateFirst p f l).map g = l.map g
  | [] => rfl
  | b :: r => by
    unfold updateFirst
    split
    · rw [List.map_cons, List.map_cons, hg]
    · rw [List.map_cons, List.map_cons, map_updateFirst hg r]

/-- A change of one booking counts the booking anew. -/
theorem countP_updateFirst {p : Booking → Bool} {f : Booking → Booking} (q : Booking → Bool)
    {b : Booking} : ∀ {l : List Booking}, l.find? p = some b →
      (updateFirst p f l).countP q + (q b).toNat = l.countP q + (q (f b)).toNat
  | c :: r, h => by
    unfold updateFirst
    cases hc : p c with
    | true =>
      rw [List.find?_cons_of_pos hc, Option.some.injEq] at h
      subst h
      rw [if_pos rfl, List.countP_cons, List.countP_cons]
      cases q c <;> cases q (f c) <;> rfl
    | false =>
      rw [List.find?_cons_of_neg (by simp [hc])] at h
      have ih := countP_updateFirst (f := f) q h
      rw [if_neg (by simp), List.countP_cons, List.countP_cons]
      omega

theorem updateFirst_of_find?_eq_none {p : Booking → Bool} {f : Booking → Booking} :
    ∀ {l : List Booking}, l.find? p = none → updateFirst p f l = l
  | [], _ => rfl
  | b :: r, h => by
    rw [List.find?_cons] at h
    unfold updateFirst
    cases hb : p b with
    | true => simp [hb] at h
    | false =>
      rw [hb] at h
      rw [if_neg (by simp), updateFirst_of_find?_eq_none h]

/-- Of bookings with distinct numbers, one that counts is the only one of its number. -/
theorem countP_ne_id {q : Booking → Bool} {b : Booking} : ∀ {l : List Booking},
    (l.map (·.id.number)).Nodup → b ∈ l →
      (l.countP fun c => q c && some c.id != some b.id) + (q b).toNat = l.countP q
  | c :: r, hn, hb => by
    rw [List.map_cons, List.nodup_cons] at hn
    obtain ⟨hc, hn⟩ := hn
    rw [List.countP_cons, List.countP_cons]
    by_cases hid : c.id = b.id
    · have hbr : b ∉ r := fun h => hc (List.mem_map.2 ⟨b, h, by rw [hid]⟩)
      have hcb : b = c := by simpa [hbr] using hb
      subst hcb
      have hr : (r.countP fun c => q c && some c.id != some b.id) = r.countP q := by
        refine List.countP_congr fun d hd => ?_
        have hdb : d.id ≠ b.id := fun h => hc (List.mem_map.2 ⟨d, hd, by rw [h]⟩)
        simp [hdb]
      rw [hr]
      cases q b <;> simp
    · have hbr : b ∈ r := by
        rcases List.mem_cons.1 hb with rfl | h
        · exact absurd rfl hid
        · exact h
      have ih := countP_ne_id (q := q) hn hbr
      have hq : (q c && some c.id != some b.id) = q c := by simp [hid]
      rw [hq]
      omega

/-! ## The numbers of rows -/

theorem numbers_update {t : BookingTables} {p : Booking → Bool} {f : Booking → Booking}
    (hf : ∀ b, (f b).id.number = b.id.number) : (t.update p f).numbers = t.numbers := by
  have hb : (updateFirst p f t.bookings).map (·.id.number) = t.bookings.map (·.id.number) :=
    map_updateFirst hf t.bookings
  simp only [numbers, update, hb]

/-- An effect adds a row under the next number, or keeps the rows. -/
theorem Effect.perm_numbers {t t' : BookingTables} (e : Effect t t') :
    t'.numbers.Perm (t.nextNumber :: t.numbers) ∧ t'.lastNumber = t.nextNumber
      ∨ t'.numbers = t.numbers ∧ t'.lastNumber = t.lastNumber := by
  cases e with
  | department d hd =>
    refine .inl ⟨?_, rfl⟩
    simp only [numbers, List.map_append, List.map_cons, List.map_nil, hd, List.append_assoc,
      List.singleton_append]
    exact List.perm_middle
  | staff s hs =>
    refine .inl ⟨?_, rfl⟩
    simp only [numbers, List.map_append, List.map_cons, List.map_nil, hs, List.append_assoc,
      List.singleton_append]
    exact (List.perm_middle.append_left _).trans List.perm_middle
  | slot s hs =>
    refine .inl ⟨?_, rfl⟩
    simp only [numbers, List.map_append, List.map_cons, List.map_nil, hs, List.append_assoc,
      List.singleton_append]
    exact (((List.perm_middle.append_left _).trans List.perm_middle).append_left _).trans
      List.perm_middle
  | booking b hb room =>
    refine .inl ⟨?_, rfl⟩
    simp only [numbers, List.map_append, List.map_cons, List.map_nil, hb, ← List.append_assoc]
    exact List.perm_append_singleton _ _
  | cancelled account id => exact .inr ⟨numbers_update fun _ => rfl, rfl⟩
  | moved account id b slot date hb room => exact .inr ⟨numbers_update fun _ => rfl, rfl⟩
  | nothing => exact .inr ⟨rfl, rfl⟩

theorem Effect.rowCount_le {t t' : BookingTables} (e : Effect t t') :
    t.rowCount ≤ t'.rowCount := by
  unfold rowCount
  rcases e.perm_numbers with ⟨hp, -⟩ | ⟨hn, -⟩
  · rw [hp.length_eq]
    exact Nat.le_succ _
  · exact Nat.le_of_eq (by rw [hn])

/-- The last number is the number of rows, no row has a larger one, and no two rows share one. -/
structure WellNumbered (t : BookingTables) : Prop where
  last : t.lastNumber.toInt = t.rowCount
  le : ∀ n ∈ t.numbers, n.toInt ≤ t.rowCount
  nodup : t.numbers.Nodup

theorem wellNumbered_empty : empty.WellNumbered where
  last := rfl
  le := by simp [numbers, empty]
  nodup := List.nodup_nil

theorem toInt_add_one {n : Int64} (h₀ : 0 ≤ n.toInt) (h : n.toInt + 1 < 2 ^ 63) :
    (n + 1).toInt = n.toInt + 1 := by
  rw [Int64.toInt_add]
  exact Int.bmod_eq_of_le (by simp; omega) (by simp; omega)

theorem WellNumbered.effect {t t' : BookingTables} (w : t.WellNumbered) (e : Effect t t')
    (few : t'.rowCount < 2 ^ 63) : t'.WellNumbered := by
  rcases e.perm_numbers with ⟨hp, hl⟩ | ⟨hn, hl⟩
  · have hc : t'.rowCount = t.rowCount + 1 := hp.length_eq
    have hnext : t.nextNumber.toInt = t.rowCount + 1 := by
      unfold nextNumber
      rw [toInt_add_one (by rw [w.last]; omega) (by rw [w.last]; omega), w.last]
    have hfresh : t.nextNumber ∉ t.numbers := by
      intro h
      have := w.le _ h
      omega
    refine ⟨by rw [hl, hnext, hc]; rfl, fun n h => ?_,
      hp.nodup_iff.2 (List.nodup_cons.2 ⟨hfresh, w.nodup⟩)⟩
    rcases List.mem_cons.1 (hp.mem_iff.1 h) with rfl | h
    · omega
    · have := w.le n h
      omega
  · have hc : t'.rowCount = t.rowCount := by unfold rowCount; rw [hn]
    exact ⟨by rw [hl, hc]; exact w.last, by rw [hn, hc]; exact w.le, hn ▸ w.nodup⟩

/-- Numbers stay distinct while the rows, and so the numbers handed out, fit 63 bits. -/
theorem WellNumbered.effects {t t' : BookingTables} (w : t.WellNumbered)
    (run : Relation.ReflTransGen Effect t t') (few : t'.rowCount < 2 ^ 63) : t'.WellNumbered := by
  induction run with
  | refl => exact w
  | tail _ e ih => exact (ih (Nat.lt_of_le_of_lt e.rowCount_le few)).effect e few

theorem wellNumbered_changeAll (changes : List BookingChange) {t : BookingTables}
    (w : t.WellNumbered) (few : (t.changeAll changes).rowCount < 2 ^ 63) :
    (t.changeAll changes).WellNumbered :=
  w.effects (effects_foldl effect_change changes t) few

theorem WellNumbered.nodup_bookings {t : BookingTables} (w : t.WellNumbered) :
    (t.bookings.map (·.id.number)).Nodup := by
  have h := w.nodup
  unfold numbers at h
  rw [List.nodup_append, List.nodup_append, List.nodup_append] at h
  exact h.2.1.2.1.2.1

end BookingTables

end Dialogue
