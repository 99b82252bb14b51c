import Mathlib.Data.List.Nodup
import Dialogue.Proofs.Booking.Served

/-!
# What the tables bear out

A participant is told of a department, a member of staff, a slot or a booking in one call and acts
on it in a later one, when others have changed the tables. What was told stays true: departments,
staff and slots do not change, and a booking stays with its member of staff (`Later`). So the tables
back what a booking in progress holds (`Backs`), and a change that rests on it leaves every booking
where it belongs (`WellPlaced`).
-/

namespace Dialogue

/-- Someone who books. -/
structure Participant where
  accountId : AccountId
  phone : String
  deriving DecidableEq, Repr

/-- Whether a visit is one of a participant. -/
def Visit.isOf (v : Visit) (who : Participant) : Bool :=
  v.accountId == who.accountId && v.phone == who.phone

theorem Visit.isOf_iff {v : Visit} {who : Participant} :
    v.isOf who = true ↔ v.accountId = who.accountId ∧ v.phone = who.phone := by
  unfold isOf
  rw [Bool.and_eq_true, beq_iff_eq, beq_iff_eq]

namespace BookingTables

/-- The slot of a number. -/
def slotAt? (t : BookingTables) (account : AccountId) (id : SlotId) : Option TimeSlot :=
  t.slots.find? fun s => s.id == id && s.accountId == account && s.isActive

/-- The account has the department. -/
def HasDepartment (t : BookingTables) (account : AccountId) (id : DepartmentId) : Prop :=
  ∃ d ∈ t.departments, d.id = id ∧ d.accountId = account

/-- The account has the member of staff in the department. -/
def HasStaff (t : BookingTables) (account : AccountId) (department : DepartmentId)
    (id : StaffId) : Prop :=
  ∃ s ∈ t.staff, s.id = id ∧ s.accountId = account ∧ s.departmentId = department

/-- A booking of the number is there, and it is one with the member of staff. -/
def IsWith (t : BookingTables) (id : BookingId) (staff : StaffId) : Prop :=
  (∃ b ∈ t.bookings, b.id = id) ∧ ∀ b ∈ t.bookings, b.id = id → b.staffId = staff

/-- What of an answer stays true. -/
def Bears (t : BookingTables) : BookingExchange → Prop
  | ⟨.getDepartment account id, .ok (some d)⟩ => d.id = id ∧ t.HasDepartment account id
  | ⟨.getStaff account id, .ok (some s)⟩ => s.id = id ∧ t.HasStaff account s.departmentId id
  | ⟨.getSlot account id, .ok (some s)⟩ => s.id = id ∧ t.slotAt? account id = some s
  | ⟨.get _ id, .ok (some b)⟩ => b.id = id ∧ t.IsWith id b.staffId
  | _ => True

/-- What the booking in progress holds at its step is in the tables and belongs together. -/
structure Backs (t : BookingTables) (account : AccountId) (p : BookingProgress) : Prop where
  department : p.step = .selectStaff → ∀ d, p.departmentId = some d → t.HasDepartment account d
  staff : p.step = .selectSlot → ∀ d s, p.departmentId = some d → p.staffId = some s →
    t.HasDepartment account d ∧ t.HasStaff account d s
  time : p.step.awaitsText = true → ∀ d id date, p.departmentId = some d → p.slotId = some id →
    p.date = some date → t.HasDepartment account d ∧ ∀ slot, t.slotAt? account id = some slot →
      t.HasStaff account d slot.staffId ∧ slot.occursOn date = true
  booking : p.step = .selectNewSlot → ∀ id s, p.bookingId = some id → p.staffId = some s →
    t.IsWith id s

/-- A booking of a participant names a department of the account, a member of staff of that
department and a slot of theirs that recurs on its date and starts at its time. -/
structure WellPlaced (t : BookingTables) (who : Participant) (b : Booking) : Prop where
  account : b.accountId = who.accountId
  phone : b.phone = who.phone
  department : t.HasDepartment who.accountId b.departmentId
  staff : t.HasStaff who.accountId b.departmentId b.staffId
  slot : ∃ slot ∈ t.slots, slot.id = b.slotId ∧ slot.accountId = who.accountId
    ∧ slot.staffId = b.staffId ∧ slot.occursOn b.date = true ∧ slot.startTime = b.time

/-- What was true of the tables is true of the later ones. -/
structure Later (t t' : BookingTables) : Prop where
  departments : t'.departments = t.departments
  staff : t'.staff = t.staff
  slots : t'.slots = t.slots
  isWith : ∀ id staff, t.IsWith id staff → t'.IsWith id staff

variable {t t' : BookingTables} {account : AccountId} {who : Participant}

namespace Later

theorem refl (t : BookingTables) : t.Later t := ⟨rfl, rfl, rfl, fun _ _ h => h⟩

variable (later : t.Later t')
include later

theorem hasDepartment {id : DepartmentId} (h : t.HasDepartment account id) :
    t'.HasDepartment account id := by
  unfold HasDepartment
  rw [later.departments]
  exact h

theorem hasStaff {department : DepartmentId} {id : StaffId} (h : t.HasStaff account department id) :
    t'.HasStaff account department id := by
  unfold HasStaff
  rw [later.staff]
  exact h

theorem slotAt?_eq (id : SlotId) : t'.slotAt? account id = t.slotAt? account id := by
  unfold slotAt?
  rw [later.slots]

theorem bears {x : BookingExchange} (h : t.Bears x) : t'.Bears x := by
  unfold Bears at *
  split at h
  · exact ⟨h.1, later.hasDepartment h.2⟩
  · exact ⟨h.1, later.hasStaff h.2⟩
  · exact ⟨h.1, (later.slotAt?_eq _).trans h.2⟩
  · exact ⟨h.1, later.isWith _ _ h.2⟩
  · trivial

theorem backs {p : BookingProgress} (h : t.Backs account p) : t'.Backs account p where
  department hp d hd := later.hasDepartment (h.department hp d hd)
  staff hp d s hd hs :=
    have ⟨department, staff⟩ := h.staff hp d s hd hs
    ⟨later.hasDepartment department, later.hasStaff staff⟩
  time hp d id date hd hid hdate := by
    obtain ⟨department, time⟩ := h.time hp d id date hd hid hdate
    refine ⟨later.hasDepartment department, fun slot hslot => ?_⟩
    rw [later.slotAt?_eq] at hslot
    exact ⟨later.hasStaff (time slot hslot).1, (time slot hslot).2⟩
  booking hp id s hid hs := later.isWith id s (h.booking hp id s hid hs)

theorem wellPlaced {b : Booking} (h : t.WellPlaced who b) : t'.WellPlaced who b := by
  refine ⟨h.account, h.phone, later.hasDepartment h.department, later.hasStaff h.staff, ?_⟩
  rw [later.slots]
  exact h.slot

end Later

/-! ## What a reply bears out -/

/-- An answer stays true as long as no number was given twice. -/
theorem Replies.bears {x : BookingExchange} (reply : t.Replies x t') (w : t.WellNumbered) :
    t.Bears x := by
  unfold Bears
  split
  · obtain ⟨now, h, -⟩ := reply.answered
    have hd := List.find?_some h.symm
    simp only [Bool.and_eq_true, beq_iff_eq] at hd
    exact ⟨hd.1.1, _, List.mem_of_find?_eq_some h.symm, hd.1.1, hd.1.2⟩
  · obtain ⟨now, h, -⟩ := reply.answered
    have hs := List.find?_some h.symm
    simp only [Bool.and_eq_true, beq_iff_eq] at hs
    exact ⟨hs.1.1, _, List.mem_of_find?_eq_some h.symm, hs.1.1, hs.1.2, rfl⟩
  · obtain ⟨now, h, -⟩ := reply.answered
    have hs := List.find?_some h.symm
    simp only [Bool.and_eq_true, beq_iff_eq] at hs
    exact ⟨hs.1.1, h.symm⟩
  · obtain ⟨now, h, -⟩ := reply.answered
    have hb := List.find?_some h.symm
    simp only [Bool.and_eq_true, beq_iff_eq] at hb
    have hmem := List.mem_of_find?_eq_some h.symm
    refine ⟨hb.1, ⟨_, hmem, hb.1⟩, fun c hc hid => ?_⟩
    rw [List.inj_on_of_nodup_map w.nodup_bookings hc hmem (by rw [hid, hb.1])]
  · trivial

/-- While questions are asked there is nothing but the time to back. -/
theorem Backs.of_awaitsText {p : BookingProgress} (waits : p.step.awaitsText = true)
    (time : ∀ d id date, p.departmentId = some d → p.slotId = some id → p.date = some date →
      t.HasDepartment account d ∧ ∀ slot, t.slotAt? account id = some slot →
        t.HasStaff account d slot.staffId ∧ slot.occursOn date = true) : t.Backs account p where
  department hp := by
    rw [hp] at waits
    cases waits
  staff hp := by
    rw [hp] at waits
    cases waits
  time _ := time
  booking hp := by
    rw [hp] at waits
    cases waits

/-- What a booking in progress becomes is backed by what was told. -/
theorem Backs.turns {v : Visit} {g : List BookingExchange} {o o' : Option BookingProgress}
    (backs : ∀ p, o = some p → t.Backs v.accountId p) (told : ∀ x ∈ g, t.Bears x)
    (turns : v.Turns g o o') : ∀ p, o' = some p → t.Backs v.accountId p := by
  rintro p ⟨⟩
  cases turns with
  | stays => exact backs p rfl
  | starts _ id flow first =>
    rcases first with rfl | rfl
    · exact ⟨nofun, nofun, nofun, nofun⟩
    · exact ⟨nofun, nofun, nofun, nofun⟩
  | department hstep hd =>
    obtain ⟨rfl, department⟩ := told _ hd
    refine ⟨?_, nofun, nofun, nofun⟩
    rintro - d ⟨⟩
    exact department
  | @staff p id s hstep hs same =>
    obtain ⟨rfl, staff⟩ := told _ hs
    refine ⟨nofun, ?_, nofun, nofun⟩
    rintro - d _ hd ⟨⟩
    have hd' : p.departmentId = some d := hd
    obtain rfl := Option.some.inj (same.trans hd')
    exact ⟨(backs p rfl).department hstep _ hd, staff⟩
  | @time p id slot date step picks waits =>
    obtain ⟨rfl, hslot⟩ := told _ picks.told
    obtain ⟨same, occurs, -⟩ := Visit.fits_iff.1 picks.fits
    refine .of_awaitsText waits ?_
    rintro d _ _ hd ⟨⟩ ⟨⟩
    obtain ⟨department, staff⟩ := (backs p rfl).staff picks.step d _ hd same
    refine ⟨department, fun slot' hslot' => ?_⟩
    rw [hslot] at hslot'
    cases hslot'
    exact ⟨staff, occurs⟩
  | @question p step hstep waits =>
    exact .of_awaitsText waits ((backs p rfl).time hstep)
  | newTime hstep own =>
    obtain ⟨rfl, isWith⟩ := told _ own.told
    refine ⟨nofun, nofun, nofun, ?_⟩
    rintro - _ _ ⟨⟩ ⟨⟩
    exact isWith

/-! ## Changes -/

/-- A reply brings every booking of the later tables where it belongs: it is one from before that
still belongs there, or the one that was just made. -/
structure Places (t : BookingTables) (who : Participant) (x : BookingExchange)
    (t' : BookingTables) : Prop where
  later : t.Later t'
  bookings : ∀ b ∈ t'.bookings,
    (∃ r, x = ⟨.create r, .ok (.created b)⟩ ∧ t'.WellPlaced who b)
      ∨ ∃ c ∈ t.bookings, c.id = b.id ∧ ∀ w, t.WellPlaced w c → t'.WellPlaced w b

theorem Places.refl (t : BookingTables) (who : Participant) (x : BookingExchange) :
    t.Places who x t :=
  ⟨.refl t, fun b hb => .inr ⟨b, hb, rfl, fun _ h => h⟩⟩

theorem Later.add_booking {b : Booking} {n : Int64}
    (w : WellNumbered { t with bookings := t.bookings ++ [b], lastNumber := n }) :
    t.Later { t with bookings := t.bookings ++ [b], lastNumber := n } := by
  refine ⟨rfl, rfl, rfl, fun id s h => ?_⟩
  obtain ⟨⟨c, hc, hid⟩, hs⟩ := h
  refine ⟨⟨c, List.mem_append_left _ hc, hid⟩, fun d hd hid' => ?_⟩
  -- The new booking does not have the number of an old one, so it is not the one in question.
  have old : c = d := List.inj_on_of_nodup_map w.nodup_bookings (List.mem_append_left _ hc) hd
    (by rw [hid, hid'])
  exact hs d (old ▸ hc) hid'

theorem Places.create {r : BookingRequest} {now : Instant} (w : (t.create r now).2.WellNumbered)
    (placed : ∀ b : Booking, b.toBookingRequest = r → t.WellPlaced who b) :
    t.Places who ⟨.create r, .ok (t.create r now).1⟩ (t.create r now).2 := by
  unfold BookingTables.create at *
  dsimp only at *
  split
  · rename_i room
    rw [if_pos room] at w
    have later := Later.add_booking w
    refine ⟨later, fun b hb => ?_⟩
    rcases List.mem_append.1 hb with hb | hb
    · exact .inr ⟨b, hb, rfl, fun _ h => later.wellPlaced h⟩
    · rw [List.mem_singleton.1 hb]
      exact .inl ⟨r, rfl, later.wellPlaced (placed _ rfl)⟩
  · exact .refl t who _

theorem mem_updateFirst {p : Booking → Bool} {f : Booking → Booking} {c : Booking} :
    ∀ {l : List Booking}, c ∈ updateFirst p f l → c ∈ l ∨ ∃ b ∈ l, p b = true ∧ c = f b
  | b :: l, h => by
    unfold updateFirst at h
    split at h
    · rename_i hb
      rcases List.mem_cons.1 h with rfl | h
      · exact .inr ⟨b, List.mem_cons_self, hb, rfl⟩
      · exact .inl (List.mem_cons_of_mem b h)
    · rcases List.mem_cons.1 h with rfl | h
      · exact .inl List.mem_cons_self
      · rcases mem_updateFirst h with h | ⟨d, hd, hp, rfl⟩
        · exact .inl (List.mem_cons_of_mem b h)
        · exact .inr ⟨d, List.mem_cons_of_mem b hd, hp, rfl⟩

theorem Later.update {p : Booking → Bool} {f : Booking → Booking} (hid : ∀ b, (f b).id = b.id)
    (hs : ∀ b ∈ t.bookings, p b = true → (f b).staffId = b.staffId) : t.Later (t.update p f) := by
  refine ⟨rfl, rfl, rfl, fun id s h => ⟨?_, fun c hc hcid => ?_⟩⟩
  · obtain ⟨b, hb, rfl⟩ := h.1
    have hmem : b.id ∈ (t.update p f).bookings.map (·.id) := by
      rw [show (t.update p f).bookings.map (·.id) = t.bookings.map (·.id) from
        map_updateFirst hid t.bookings]
      exact List.mem_map_of_mem hb
    obtain ⟨c, hc, hcid⟩ := List.mem_map.1 hmem
    exact ⟨c, hc, hcid⟩
  · rcases mem_updateFirst hc with hc | ⟨b, hb, hp, rfl⟩
    · exact h.2 c hc hcid
    · rw [hs b hb hp]
      exact h.2 b hb ((hid b).symm.trans hcid)

theorem Places.update {p : Booking → Bool} {f : Booking → Booking} (x : BookingExchange)
    (hid : ∀ b, (f b).id = b.id)
    (hs : ∀ b ∈ t.bookings, p b = true → (f b).staffId = b.staffId)
    (placed : ∀ b ∈ t.bookings, p b = true → ∀ w, t.WellPlaced w b → t.WellPlaced w (f b)) :
    t.Places who x (t.update p f) := by
  have later := Later.update hid hs
  refine ⟨later, fun b hb => .inr ?_⟩
  rcases mem_updateFirst hb with hb | ⟨c, hc, hp, rfl⟩
  · exact ⟨b, hb, rfl, fun _ h => later.wellPlaced h⟩
  · exact ⟨c, hc, (hid c).symm, fun w h => later.wellPlaced (placed c hc hp w h)⟩

/-- What is asked for a slot that was told, with its staff and on one of its dates, is well
placed. -/
theorem wellPlaced_request {v : Visit} {department : DepartmentId} {id : SlotId} {slot : TimeSlot}
    {date : Date} {answers : Option Questionnaire} (isOf : v.isOf who = true)
    (hd : t.HasDepartment v.accountId department)
    (hslot : t.slotAt? v.accountId id = some slot)
    (hs : t.HasStaff v.accountId department slot.staffId) (occurs : slot.occursOn date = true)
    {b : Booking} (hb : b.toBookingRequest = v.request department slot date answers) :
    t.WellPlaced who b := by
  obtain ⟨haccount, hphone⟩ := Visit.isOf_iff.1 isOf
  have hp := List.find?_some hslot
  simp only [Bool.and_eq_true, beq_iff_eq] at hp
  rw [haccount] at hd hs hp
  constructor
  · rw [hb]; exact haccount
  · rw [hb]; exact hphone
  · rw [hb]; exact hd
  · rw [hb]; exact hs
  · rw [hb]
    exact ⟨slot, List.mem_of_find?_eq_some hslot, rfl, hp.1.2, rfl, occurs, rfl⟩

/-- A change that rests on what was told brings every booking where it belongs. -/
theorem places_of_grounds {v : Visit} {p : BookingProgress} {g : List BookingExchange}
    {q : BookingQuery} {r : Except BookingError q.Answer} (grounds : v.Grounds p g q)
    (isOf : v.isOf who = true) (told : ∀ x ∈ g, t.Bears x) (backs : t.Backs v.accountId p)
    (reply : t.Replies ⟨q, r⟩ t') (w : t'.WellNumbered) : t.Places who ⟨q, r⟩ t' := by
  rcases reply with ⟨now, hr, rfl⟩ | ⟨e, -, rfl⟩
  case inr => exact .refl t' who _
  obtain rfl : r = .ok (answer now q t).1 := hr
  cases grounds with
  | answered waits hd hid hdate hslot =>
    obtain ⟨-, hslot⟩ := told _ hslot
    obtain ⟨department, time⟩ := backs.time waits _ _ _ hd hid hdate
    obtain ⟨staff, occurs⟩ := time _ hslot
    exact .create w fun b hb => wellPlaced_request isOf department hslot staff occurs hb
  | picked picks hd hslot =>
    obtain ⟨rfl, hfound⟩ := told _ picks.told
    obtain ⟨-, hslot⟩ := told _ hslot
    cases hfound.symm.trans hslot
    obtain ⟨same, occurs, -⟩ := Visit.fits_iff.1 picks.fits
    obtain ⟨department, staff⟩ := backs.staff picks.step _ _ hd same
    exact .create w fun b hb => wellPlaced_request isOf department hslot staff occurs hb
  | @cancelled id b own =>
    change t.Places who _ (t.cancel v.accountId b.id).2
    unfold cancel
    split
    · refine .update _ (fun _ => rfl) (fun _ _ _ => rfl) fun c _ _ w h => ?_
      exact ⟨h.account, h.phone, h.department, h.staff, h.slot⟩
    · exact .refl t who _
  | @moved id slotId slot date b hstep hid hslot fits own =>
    obtain ⟨-, hslot⟩ := told _ hslot
    obtain ⟨same, occurs, -⟩ := Visit.fits_iff.1 fits
    have isWith := backs.booking hstep _ _ hid same
    have hp := List.find?_some hslot
    simp only [Bool.and_eq_true, beq_iff_eq] at hp
    change t.Places who _ (t.reschedule v.accountId id slot date).2
    unfold reschedule
    split
    · exact .refl t who _
    · dsimp only
      split
      · refine .update _ (fun _ => rfl) (fun c hc hstands => ?_) fun c hc hstands w h => ?_
        · simp only [stands, Bool.and_eq_true, beq_iff_eq] at hstands
          exact (isWith.2 c hc hstands.1.1).symm
        · simp only [stands, Bool.and_eq_true, beq_iff_eq] at hstands
          refine ⟨h.account, h.phone, h.department, ?_, slot, List.mem_of_find?_eq_some hslot, rfl,
            ?_, rfl, occurs, rfl⟩
          · -- The slot is one of the member of staff who was selected, and the booking is still
            -- theirs.
            have staff := h.staff
            rw [isWith.2 c hc hstands.1.1] at staff
            exact staff
          · rw [hp.1.2, ← h.account, hstands.1.2]
      · exact .refl t who _

end BookingTables

end Dialogue
