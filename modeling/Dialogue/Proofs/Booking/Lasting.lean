import Mathlib.Data.List.Perm.Basic
import Dialogue.Proofs.Booking.Accepted
import Dialogue.Proofs.Booking.Declined

/-!
# What tables keep

Whatever is done with tables, their bookings stay where they are stored, and of a booking that
stands only its place and its status ever change (`Booking.Remains`). One step keeps that, as each
of the few effects of an operation does (`Effect.remains`), and so does every run
(`stored_for_good`). A booking that was cancelled is never found by a change, so it stays as it is
and counts nowhere.
-/

namespace Dialogue

/-- What never changes about a booking: all but its place and its status, and after it was cancelled
these too. -/
structure Booking.Remains (b b' : Booking) : Prop where
  id : b'.id = b.id
  accountId : b'.accountId = b.accountId
  phone : b'.phone = b.phone
  departmentId : b'.departmentId = b.departmentId
  customerName : b'.customerName = b.customerName
  customAnswer1 : b'.customAnswer1 = b.customAnswer1
  customAnswer2 : b'.customAnswer2 = b.customAnswer2
  createdAt : b'.createdAt = b.createdAt
  cancelled : b.status = .cancelled → b' = b

namespace Booking

theorem Remains.refl (b : Booking) : b.Remains b :=
  ⟨rfl, rfl, rfl, rfl, rfl, rfl, rfl, rfl, fun _ => rfl⟩

theorem Remains.trans {a b c : Booking} (h : a.Remains b) (h' : b.Remains c) : a.Remains c where
  id := h'.id.trans h.id
  accountId := h'.accountId.trans h.accountId
  phone := h'.phone.trans h.phone
  departmentId := h'.departmentId.trans h.departmentId
  customerName := h'.customerName.trans h.customerName
  customAnswer1 := h'.customAnswer1.trans h.customAnswer1
  customAnswer2 := h'.customAnswer2.trans h.customAnswer2
  createdAt := h'.createdAt.trans h.createdAt
  cancelled gone := by
    obtain rfl := h.cancelled gone
    exact h'.cancelled gone

theorem Remains.cancel {b : Booking} (stood : b.status = .confirmed) :
    b.Remains { b with status := .cancelled } :=
  ⟨rfl, rfl, rfl, rfl, rfl, rfl, rfl, rfl, fun gone => nomatch stood.symm.trans gone⟩

theorem Remains.move {b : Booking} (stood : b.status = .confirmed) (slot : TimeSlot) (date : Date) :
    b.Remains (BookingTables.moved b slot date) :=
  ⟨rfl, rfl, rfl, rfl, rfl, rfl, rfl, rfl, fun gone => nomatch stood.symm.trans gone⟩

end Booking

/-- An operation on tables: something is added, or a query is answered. -/
inductive TableOperation where
  | addDepartment (account : AccountId) (name : String) (description : Option String)
  | addStaff (account : AccountId) (department : DepartmentId) (name : String)
  | addSlot (account : AccountId) (staff : StaffId) (weekday : Weekday) (startTime : TimeOfDay)
    (capacity : UInt32)
  | query (now : Instant) (q : BookingQuery)

/-- The answer says that there was no room, or that there is no such thing. -/
def BookingQuery.Refused : (q : BookingQuery) → q.Answer → Prop
  | .getDepartment _ _, d => d = none
  | .getStaff _ _, s => s = none
  | .getSlot _ _, s => s = none
  | .get _ _, b => b = none
  | .create _, p => ∃ room, p = .full room
  | .cancel _ _, done => done = false
  | .reschedule _ _ _ _, p => p = none ∨ ∃ room, p = some (.full room)
  | _, _ => False

namespace BookingTables

/-- The tables after an operation. -/
def perform (t : BookingTables) : TableOperation → BookingTables
  | .addDepartment account name description => (t.addDepartment account name description).2
  | .addStaff account department name => (t.addStaff account department name).2
  | .addSlot account staff weekday startTime capacity =>
    (t.addSlot account staff weekday startTime capacity).2
  | .query now q => (answer now q t).2

/-- The tables after operations, one after another. -/
def performAll (t : BookingTables) (operations : List TableOperation) : BookingTables :=
  operations.foldl perform t

theorem effect_perform (t : BookingTables) (o : TableOperation) : Effect t (t.perform o) := by
  cases o with
  | addDepartment account name description =>
    exact effect_change t (.addDepartment account name description)
  | addStaff account department name => exact effect_change t (.addStaff account department name)
  | addSlot account staff weekday startTime capacity =>
    exact effect_change t (.addSlot account staff weekday startTime capacity)
  | query now q => exact effect_answer now q t

variable {t t' : BookingTables} {i : Nat} {b : Booking}

/-! ## Each effect -/

/-- A change of the first booking that a test finds leaves a booking as it is, or is made to it. -/
theorem getElem?_updateFirst (p : Booking → Bool) (f : Booking → Booking) :
    ∀ {l : List Booking} {i : Nat}, l[i]? = some b →
      (updateFirst p f l)[i]? = some b ∨ p b = true ∧ (updateFirst p f l)[i]? = some (f b)
  | c :: r, 0, h => by
    obtain rfl : c = b := by simpa using h
    unfold updateFirst
    split
    · rename_i found
      exact .inr ⟨found, rfl⟩
    · exact .inl rfl
  | c :: r, i + 1, h => by
    rw [List.getElem?_cons_succ] at h
    unfold updateFirst
    split
    · exact .inl h
    · exact getElem?_updateFirst p f h

theorem status_of_stands {account : AccountId} {id : BookingId} (h : stands account id b = true) :
    b.status = .confirmed := by
  simp only [stands, Bool.and_eq_true, beq_iff_eq] at h
  exact h.2

theorem remains_update {account : AccountId} {id : BookingId} {f : Booking → Booking}
    (change : ∀ b : Booking, b.status = .confirmed → b.Remains (f b)) (h : t.bookings[i]? = some b) :
    ∃ b', (t.update (stands account id) f).bookings[i]? = some b' ∧ b.Remains b' := by
  rcases getElem?_updateFirst (stands account id) f h with same | ⟨found, changed⟩
  · exact ⟨b, same, .refl b⟩
  · exact ⟨f b, changed, change b (status_of_stands found)⟩

/-- Whatever an operation does, a stored booking stays at its place. -/
theorem Effect.remains (e : Effect t t') (h : t.bookings[i]? = some b) :
    ∃ b', t'.bookings[i]? = some b' ∧ b.Remains b' := by
  cases e with
  | department d hd => exact ⟨b, h, .refl b⟩
  | staff s hs => exact ⟨b, h, .refl b⟩
  | slot s hs => exact ⟨b, h, .refl b⟩
  | booking new hid room =>
    have inside := (List.getElem?_eq_some_iff.1 h).1
    exact ⟨b, (List.getElem?_append_left inside).trans h, .refl b⟩
  | cancelled account id => exact remains_update (fun _ => .cancel) h
  | moved account id found slot date hfound room =>
    exact remains_update (fun _ stood => .move stood slot date) h
  | nothing => exact ⟨b, h, .refl b⟩

theorem remains_of_effects (run : Relation.ReflTransGen Effect t t')
    (h : t.bookings[i]? = some b) : ∃ b', t'.bookings[i]? = some b' ∧ b.Remains b' := by
  induction run with
  | refl => exact ⟨b, h, .refl b⟩
  | tail _ e ih =>
    obtain ⟨c, hc, remains⟩ := ih
    obtain ⟨d, hd, remains'⟩ := e.remains hc
    exact ⟨d, hd, remains.trans remains'⟩

/-! ## What is counted and refused -/

/-- The tables without the booking at a place. -/
def without (t : BookingTables) (i : Nat) : BookingTables :=
  { t with bookings := t.bookings.eraseIdx i }

/-- A cancelled booking counts nowhere: there is as much room without it. -/
theorem availability_without (h : t.bookings[i]? = some b) (gone : b.status = .cancelled)
    (staff : StaffId) (date : Date) (time : TimeOfDay) (excluding : Option BookingId) :
    (t.without i).availability staff date time excluding
      = t.availability staff date time excluding := by
  obtain ⟨inside, rfl⟩ := List.getElem?_eq_some_iff.1 h
  have free : takes t.bookings[i] staff date time = false := by
    rw [takes, gone]
    rfl
  have count : (t.without i).taken staff date time excluding
      = t.taken staff date time excluding := by
    unfold taken
    rw [← (List.getElem_cons_eraseIdx_perm inside).countP_eq,
      List.countP_cons_of_neg (by simp [free])]
    rfl
  unfold availability
  rw [count]
  rfl

theorem eq_of_refused {now : Instant} {q : BookingQuery} (refused : q.Refused (answer now q t).1) :
    (answer now q t).2 = t := by
  refine Replies.eq_of_not_alters (x := ⟨q, .ok (answer now q t).1⟩) (.inl ⟨now, rfl, rfl⟩) ?_
  revert refused
  generalize (answer now q t).1 = a
  cases q with
  | create r =>
    rintro ⟨room, rfl⟩
    exact not_false
  | cancel account id =>
    rintro rfl
    exact not_false
  | reschedule account id slot date =>
    rintro (rfl | ⟨room, rfl⟩)
    · exact not_false
    · exact not_false
  | _ => exact fun _ => not_false

/-- While the numbers handed out fit 63 bits, no two rows share one. Every booking stays where it is
stored and is found under its number, with all but its place and status unchanged; once cancelled it
does not change at all, and there is as much room as without it. What is refused changes nothing. -/
theorem stored_for_good (before after : List TableOperation)
    (reached : empty.performAll before = t) (later : t.performAll after = t')
    (few : t'.rowCount < 2 ^ 63) :
    t'.numbers.Nodup
    ∧ (∀ i b, t.bookings[i]? = some b → ∃ b', t'.bookings[i]? = some b' ∧ b.Remains b'
      ∧ (∀ now, (answer now (.get b.accountId b.id) t').1 = some b')
      ∧ (b.status = .cancelled → b' = b ∧ ∀ staff date time excluding,
        (t'.without i).availability staff date time excluding
          = t'.availability staff date time excluding))
    ∧ ∀ now q, q.Refused (answer now q t).1 → (answer now q t).2 = t := by
  subst reached later
  have first := effects_foldl effect_perform before empty
  have next := effects_foldl effect_perform after (empty.performAll before)
  have w := wellNumbered_empty.effects (first.trans next) few
  refine ⟨w.nodup, fun i b h => ?_, fun now q => eq_of_refused⟩
  obtain ⟨b', h', remains⟩ := remains_of_effects next h
  refine ⟨b', h', remains, fun now => ?_, fun gone => ?_⟩
  · rw [← remains.accountId, ← remains.id]
    exact w.getBooking_eq (List.mem_of_getElem? h')
  · obtain rfl := remains.cancelled gone
    exact ⟨rfl, availability_without h' gone⟩

/-! The only place of a monday, which is taken, given up and taken again. -/

namespace Vacated

open Practice

def slot : TimeSlot := ⟨⟨3⟩, account, ⟨2⟩, .monday, noon, 1, true⟩

def request : BookingRequest :=
  ⟨account, ⟨1⟩, ⟨2⟩, ⟨3⟩, "919800000001", some "Asha", monday, noon, none, none⟩

def before : List TableOperation :=
  [.addDepartment account "Dental" none, .addStaff account ⟨1⟩ "Dr. Rao",
    .addSlot account ⟨2⟩ .monday noon 1, .query now (.create request),
    .query now (.create request), .query now (.cancel account ⟨4⟩)]

def after : List TableOperation :=
  [.query now (.create request), .query now (.cancel account ⟨4⟩),
    .query now (.reschedule account ⟨4⟩ slot monday)]

def cancelled : Booking := { request with id := ⟨4⟩, status := .cancelled, createdAt := now }

end Vacated

open Practice Vacated in
theorem stored_for_good_vacated :
    (empty.performAll before).bookings[0]? = some cancelled
    ∧ ((empty.performAll before).performAll after).rowCount = 5
    ∧ ((empty.performAll before).performAll after).bookings[0]? = some cancelled
    ∧ ((empty.performAll before).performAll after).availability ⟨2⟩ monday noon none = ⟨1, 1⟩
    ∧ (((empty.performAll before).performAll after).without 0).availability ⟨2⟩ monday noon none
      = ⟨1, 1⟩ := by
  have stored : (empty.performAll before).bookings[0]? = some cancelled := by decide
  have rows : ((empty.performAll before).performAll after).rowCount = 5 := by decide
  have taken : ((empty.performAll before).performAll after).availability ⟨2⟩ monday noon none
      = ⟨1, 1⟩ := by decide
  have few : ((empty.performAll before).performAll after).rowCount < 2 ^ 63 := by
    rw [rows]
    decide
  obtain ⟨-, kept, -⟩ := stored_for_good before after rfl rfl few
  obtain ⟨b', later, -, -, gone⟩ := kept 0 cancelled stored
  obtain ⟨rfl, free⟩ := gone rfl
  exact ⟨stored, rows, later, taken, (free _ _ _ _).trans taken⟩

end BookingTables

end Dialogue
