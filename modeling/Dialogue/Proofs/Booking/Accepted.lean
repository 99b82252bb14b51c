import Dialogue.Proofs.Booking.RowId
import Dialogue.Proofs.Booking.Upcoming

/-!
# Which selections are accepted

What tables hold is found under its number, since no number was given twice. So a selection is
accepted, that is it leads to a step rather than to a rejection, if it is of something the tables
hold that fits the booking in progress: each step has one lemma that says when.
-/

namespace Dialogue

namespace BookingTables

variable {t : BookingTables} {now : Instant} {c : Context} {β : Type}
  {post : β → Context → BookingTables → Prop}

/-! ## Things are found under their numbers -/

/-- In a list without a key twice, something that passes a test is found by it if whatever passes
has its key. -/
theorem find?_eq_some_of_nodup {α κ : Type} {l : List α} {key : α → κ}
    (nodup : (l.map key).Nodup) {p : α → Bool} {a : α} (ha : a ∈ l) (hp : p a = true)
    (same : ∀ b, p b = true → key b = key a) : l.find? p = some a := by
  cases h : l.find? p with
  | none =>
    have := List.find?_eq_none.1 h a ha
    contradiction
  | some b =>
    have hb := same b (List.find?_some h)
    rw [List.inj_on_of_nodup_map nodup (List.mem_of_find?_eq_some h) ha hb]

theorem WellNumbered.nodup_departments (w : t.WellNumbered) :
    (t.departments.map (·.id.number)).Nodup := (List.nodup_append.1 w.nodup).1

theorem WellNumbered.nodup_staff (w : t.WellNumbered) : (t.staff.map (·.id.number)).Nodup :=
  (List.nodup_append.1 (List.nodup_append.1 w.nodup).2.1).1

theorem WellNumbered.nodup_slots (w : t.WellNumbered) : (t.slots.map (·.id.number)).Nodup :=
  (List.nodup_append.1 (List.nodup_append.1 (List.nodup_append.1 w.nodup).2.1).2.1).1

theorem WellNumbered.getDepartment_eq (w : t.WellNumbered) {d : Department}
    (hd : d ∈ t.departments) (active : d.isActive = true) :
    (answer now (.getDepartment d.accountId d.id) t).1 = some d := by
  refine find?_eq_some_of_nodup w.nodup_departments hd (by simp [active]) fun e he => ?_
  simp only [Bool.and_eq_true, beq_iff_eq] at he
  rw [he.1.1]

theorem WellNumbered.getStaff_eq (w : t.WellNumbered) {s : Staff} (hs : s ∈ t.staff)
    (active : s.isActive = true) : (answer now (.getStaff s.accountId s.id) t).1 = some s := by
  refine find?_eq_some_of_nodup w.nodup_staff hs (by simp [active]) fun e he => ?_
  simp only [Bool.and_eq_true, beq_iff_eq] at he
  rw [he.1.1]

theorem WellNumbered.getSlot_eq (w : t.WellNumbered) {s : TimeSlot} (hs : s ∈ t.slots)
    (active : s.isActive = true) : (answer now (.getSlot s.accountId s.id) t).1 = some s := by
  refine find?_eq_some_of_nodup w.nodup_slots hs (by simp [active]) fun e he => ?_
  simp only [Bool.and_eq_true, beq_iff_eq] at he
  rw [he.1.1]

theorem WellNumbered.getBooking_eq (w : t.WellNumbered) {b : Booking} (hb : b ∈ t.bookings) :
    t.bookings.find? (fun e => e.id == b.id && e.accountId == b.accountId) = some b := by
  refine find?_eq_some_of_nodup w.nodup_bookings hb (by simp) fun e he => ?_
  simp only [Bool.and_eq_true, beq_iff_eq] at he
  rw [he.1]

/-- A booking is the participant's own, and it stands. -/
structure Own (t : BookingTables) (v : Visit) (b : Booking) : Prop where
  mem : b ∈ t.bookings
  account : b.accountId = v.accountId
  phone : b.phone = v.phone
  stands : b.status = .confirmed

variable {v : Visit}

theorem Own.find? (w : t.WellNumbered) {b : Booking} (own : t.Own v b) :
    t.bookings.find? (BookingTables.stands v.accountId b.id) = some b := by
  refine find?_eq_some_of_nodup w.nodup_bookings own.mem ?_ fun e he => ?_
  · simp [BookingTables.stands, own.account, own.stands]
  · simp only [BookingTables.stands, Bool.and_eq_true, beq_iff_eq] at he
    rw [he.1.1]

/-- The participant's own booking of a number. -/
def ownBooking? (t : BookingTables) (v : Visit) (id : BookingId) : Option Booking :=
  (t.bookings.find? fun b => b.id == id && b.accountId == v.accountId).filter fun b =>
    b.phone == v.phone && b.status == .confirmed

theorem yields_ownBooking? {id : BookingId} {f : Option Booking → BookingWork β}
    (h : t.Yields now (f (t.ownBooking? v id)) c post) :
    t.Yields now (v.ownBooking? id >>= f) c post := h

theorem own_of_ownBooking? {id : BookingId} {b : Booking} (h : t.ownBooking? v id = some b) :
    t.Own v b := by
  obtain ⟨hfind, hb⟩ := Option.filter_eq_some_iff.1 h
  have hp := List.find?_some hfind
  simp only [Bool.and_eq_true, beq_iff_eq] at hb hp
  exact ⟨List.mem_of_find?_eq_some hfind, hp.2, hb.1, hb.2⟩

theorem Own.ownBooking?_eq (w : t.WellNumbered) {b : Booking} (own : t.Own v b) :
    t.ownBooking? v b.id = some b := by
  refine Option.filter_eq_some_iff.2 ⟨?_, by simp [own.phone, own.stands]⟩
  rw [← own.account]
  exact w.getBooking_eq own.mem

end BookingTables

/-- The step has no list among its messages. -/
def FlowStep.ListsNothing (s : FlowStep) : Prop := ∀ l, .list l ∉ s.messages

theorem FlowStep.listsNothing_text (text : String) (transition : FlowTransition) :
    ListsNothing ⟨[.text text], transition⟩ := by
  simp [ListsNothing]

theorem FlowStep.listsNothing_silent : silent.ListsNothing := by
  simp [ListsNothing, silent]

namespace BookingTables

/-! ## Parts of steps -/

variable {t : BookingTables} {now : Instant} {c : Context} {β : Type}
  {post : β → Context → BookingTables → Prop} {v : Visit}

open FlowStep

theorem yields_announce {b : Booking} {text : String} {f : String → BookingWork β}
    (h : ∀ resolved c', t.Yields now (f resolved) c' post) :
    t.Yields now (v.announce b text >>= f) c post := by
  have told : t.Yields now (v.announce b text) c fun _ _ t' => t' = t := ⟨_, _, _, rfl, rfl⟩
  refine told.bind fun resolved c' t' same => ?_
  obtain rfl := same
  exact h resolved c'

theorem yields_place {settings : BookAppointment} {department : DepartmentId} {slot : TimeSlot}
    {date : Date} {answers : Option Questionnaire} :
    t.Yields now (v.place settings department slot date answers) c
      fun step _ _ => step.ListsNothing := by
  unfold Visit.place
  refine yields_read rfl ?_
  split
  · refine yields_ask ?_
    split
    · exact yields_pure (listsNothing_text _ _)
    · exact yields_announce fun resolved c' => yields_pure (listsNothing_text _ _)
  · exact yields_pure (listsNothing_text _ _)

theorem yields_complete {p : BookingProgress} {settings : BookAppointment}
    {answers : Option Questionnaire} :
    t.Yields now (v.complete p settings answers) c fun step _ _ => step.ListsNothing := by
  unfold Visit.complete
  refine yields_clear ?_
  split
  · refine yields_read rfl ?_
    split
    · exact yields_place
    · exact yields_pure listsNothing_silent
  · exact yields_pure listsNothing_silent

/-! ## Steps that accept -/

section Accepts

variable {p : BookingProgress}

theorem accepts_selectDepartment (w : t.WellNumbered) {settings : BookAppointment}
    {d : Department} (hd : d ∈ t.departments) (active : d.isActive = true)
    (account : d.accountId = v.accountId) :
    t.Yields now (v.selectDepartment p settings d.id) c fun o _ _ => o.isSome = true := by
  unfold Visit.selectDepartment
  refine yields_read rfl ?_
  rw [← account, w.getDepartment_eq hd active]
  refine yields_read rfl ?_
  split
  · exact yields_clear (yields_pure rfl)
  · exact yields_keep (yields_pure rfl)

theorem accepts_selectStaff (w : t.WellNumbered) {settings : BookAppointment} {s : Staff}
    (hs : s ∈ t.staff) (active : s.isActive = true) (account : s.accountId = v.accountId)
    (department : some s.departmentId = p.departmentId) :
    t.Yields now (v.selectStaff p settings s.id) c fun o _ _ => o.isSome = true := by
  unfold Visit.selectStaff
  refine yields_read rfl ?_
  rw [← account, w.getStaff_eq hs active]
  dsimp only
  rw [if_neg (by simpa using department)]
  refine yields_openTimes ?_
  split
  · exact yields_clear (yields_pure rfl)
  · exact yields_keep (yields_pure rfl)

theorem accepts_selectSlot (w : t.WellNumbered) {settings : BookAppointment} {slot : TimeSlot}
    {date : Date} (hslot : slot ∈ t.slots) (active : slot.isActive = true)
    (account : slot.accountId = v.accountId) (fits : v.fits p slot date = true) :
    t.Yields now (v.selectSlot p settings slot.id date) c fun o _ _ => o.isSome = true := by
  unfold Visit.selectSlot
  refine yields_read rfl ?_
  rw [← account, w.getSlot_eq hslot active]
  dsimp only
  rw [if_pos fits]
  refine yields_read rfl ?_
  split
  · split
    · exact yields_complete.bind fun step c' t' _ => yields_pure rfl
    · exact yields_keepQuestions (yields_keep (yields_pure rfl))
  · exact yields_clear (yields_pure rfl)

theorem accepts_cancel (w : t.WellNumbered) {settings : CheckBookings} {b : Booking}
    (own : t.Own v b) :
    t.Yields now (v.cancel settings b.id) c fun o _ _ => o.isSome = true := by
  have any : t.bookings.any (BookingTables.stands v.accountId b.id) = true :=
    List.any_eq_true.2 ⟨b, own.mem, List.find?_some (own.find? w)⟩
  have done : (answer now (.cancel v.accountId b.id) t).1 = true := by
    show (t.cancel v.accountId b.id).1 = true
    unfold BookingTables.cancel
    rw [if_pos any]
  unfold Visit.cancel
  refine yields_ownBooking? ?_
  rw [own.ownBooking?_eq w]
  refine yields_ask ?_
  rw [done]
  exact yields_clear (yields_announce fun resolved c' => yields_pure rfl)

theorem accepts_startReschedule (w : t.WellNumbered) {settings : CheckBookings} {b : Booking}
    (own : t.Own v b) :
    t.Yields now (v.startReschedule p settings b.id) c fun o _ _ => o.isSome = true := by
  unfold Visit.startReschedule
  refine yields_ownBooking? ?_
  rw [own.ownBooking?_eq w]
  refine yields_openTimes ?_
  dsimp only
  split
  · exact yields_clear (yields_pure rfl)
  · exact yields_keep (yields_pure rfl)

theorem accepts_selectNewSlot (w : t.WellNumbered) {settings : CheckBookings} {b : Booking}
    {slot : TimeSlot} {date : Date} (own : t.Own v b) (hid : p.bookingId = some b.id)
    (hslot : slot ∈ t.slots) (active : slot.isActive = true)
    (account : slot.accountId = v.accountId) (fits : v.fits p slot date = true) :
    t.Yields now (v.selectNewSlot p settings slot.id date) c fun o _ _ => o.isSome = true := by
  have placed : (answer now (.reschedule v.accountId b.id slot date) t).1 ≠ none := by
    show (t.reschedule v.accountId b.id slot date).1 ≠ none
    unfold BookingTables.reschedule
    rw [own.find? w]
    dsimp only
    split <;> simp
  unfold Visit.selectNewSlot
  rw [hid]
  refine yields_read rfl ?_
  rw [← account, w.getSlot_eq hslot active, account]
  dsimp only
  rw [if_pos fits]
  refine yields_ownBooking? ?_
  rw [own.ownBooking?_eq w]
  refine yields_ask (yields_clear ?_)
  split
  · rename_i hnone
    exact absurd hnone placed
  · exact yields_pure rfl
  · exact yields_announce fun resolved c' => yields_pure rfl

end Accepts

end BookingTables

end Dialogue
