import Dialogue.Proofs.Booking.Coherence
import Dialogue.Proofs.Tracing

/-!
# What a call can do

A call starts a flow or carries it on. Whatever the store answers, it asks for a change at most
once, and the change is grounded in the booking in progress and in what the store told before
(`Visit.Grounds`): a booking is made of the department and the time that were selected, and a
booking is cancelled or moved only if the store gave it as one of the participant's own that
stands. Where the call leaves a booking in progress, it is the one before, a fresh one, or the one
before with one more thing selected (`Visit.Turns`).

All of it is said of the history so far, so it holds of calls of which only a part has taken place
(`FlowCall.acts_work`).
-/

namespace Dialogue

/-- Whether the query asks for a change of the tables. -/
def BookingQuery.changes : BookingQuery → Bool
  | .create _ | .cancel _ _ | .reschedule _ _ _ _ => true
  | _ => false

/-- No change was asked for. -/
def Quiet (g : List BookingExchange) : Prop := ∀ x ∈ g, x.1.changes = false

theorem Quiet.concat {g : List BookingExchange} (h : Quiet g) {x : BookingExchange}
    (hx : x.1.changes = false) : Quiet (g ++ [x]) := by
  intro y hy
  rcases List.mem_append.1 hy with hy | hy
  · exact h y hy
  · rw [List.mem_singleton.1 hy]
    exact hx

namespace Visit

theorem fits_iff {v : Visit} {p : BookingProgress} {slot : TimeSlot} {date : Date} :
    v.fits p slot date = true ↔
      p.staffId = some slot.staffId ∧ slot.occursOn date = true ∧ v.today ≤ date := by
  unfold fits
  rw [Bool.and_eq_true, Bool.and_eq_true, beq_iff_eq, decide_eq_true_eq, and_assoc, eq_comm]

variable (v : Visit) (p : BookingProgress) (g : List BookingExchange)

/-- The store gave a slot that fits the booking in progress on a date. -/
structure Picks (id : SlotId) (slot : TimeSlot) (date : Date) : Prop where
  step : p.step = .selectSlot
  told : ⟨.getSlot v.accountId id, .ok (some slot)⟩ ∈ g
  fits : v.fits p slot date = true

/-- The store gave a booking that stands and is the participant's own. -/
structure Owns (id : BookingId) (b : Booking) : Prop where
  told : ⟨.get v.accountId id, .ok (some b)⟩ ∈ g
  phone : b.phone = v.phone
  stands : b.status = .confirmed

variable {v g} in
theorem Owns.of_filter {id : BookingId} {booking : Option Booking} {b : Booking}
    (told : ⟨.get v.accountId id, .ok booking⟩ ∈ g)
    (hb : (booking.filter fun b => b.phone == v.phone && b.status == .confirmed) = some b) :
    v.Owns g id b := by
  obtain ⟨rfl, own⟩ := Option.filter_eq_some_iff.1 hb
  simp only [Bool.and_eq_true, beq_iff_eq] at own
  exact ⟨told, own.1, own.2⟩

/-- The change is one that the booking in progress and the answers so far give grounds for. -/
inductive Grounds : BookingQuery → Prop
  | answered {department : DepartmentId} {id : SlotId} {slot : TimeSlot} {date : Date}
    {answers : Option Questionnaire} : p.step.awaitsText = true → p.departmentId = some department →
    p.slotId = some id → p.date = some date →
    ⟨.getSlot v.accountId id, .ok (some slot)⟩ ∈ g →
    Grounds (.create (v.request department slot date answers))
  | picked {department : DepartmentId} {id : SlotId} {found slot : TimeSlot} {date : Date} :
    v.Picks p g id found date → p.departmentId = some department →
    ⟨.getSlot v.accountId found.id, .ok (some slot)⟩ ∈ g →
    Grounds (.create (v.request department slot date none))
  | cancelled {id : BookingId} {b : Booking} : v.Owns g id b → Grounds (.cancel v.accountId b.id)
  | moved {id : BookingId} {slotId : SlotId} {slot : TimeSlot} {date : Date} {b : Booking} :
    p.step = .selectNewSlot → p.bookingId = some id →
    ⟨.getSlot v.accountId slotId, .ok (some slot)⟩ ∈ g → v.fits p slot date = true →
    v.Owns g id b → Grounds (.reschedule v.accountId id slot date)

/-- How a call leaves the booking in progress. -/
inductive Turns : Option BookingProgress → Option BookingProgress → Prop
  | stays (o : Option BookingProgress) : Turns o o
  | ends (o : Option BookingProgress) : Turns o none
  | starts (o : Option BookingProgress) (id : NodeId) (flow : BookingFlow) {step : BookingStep} :
    step.IsFirst → Turns o (some (.start id flow step))
  | department {p : BookingProgress} {id : DepartmentId} {d : Department} :
    p.step = .selectDepartment → ⟨.getDepartment v.accountId id, .ok (some d)⟩ ∈ g →
    Turns (some p) (some { p.atStep .selectStaff with departmentId := some d.id })
  | staff {p : BookingProgress} {id : StaffId} {s : Staff} : p.step = .selectStaff →
    ⟨.getStaff v.accountId id, .ok (some s)⟩ ∈ g → some s.departmentId = p.departmentId →
    Turns (some p) (some { p.atStep .selectSlot with staffId := some s.id })
  | time {p : BookingProgress} {id : SlotId} {slot : TimeSlot} {date : Date} {step : BookingStep} :
    v.Picks p g id slot date → step.awaitsText = true →
    Turns (some p) (some { p.atStep step with slotId := some slot.id, date := some date })
  | question {p : BookingProgress} {step : BookingStep} : p.step.awaitsText = true →
    step.awaitsText = true → Turns (some p) (some (p.atStep step))
  | newTime {p : BookingProgress} {id : BookingId} {b : Booking} : p.step = .selectBooking →
    v.Owns g id b → Turns (some p) (some { p.atStep .selectNewSlot with
      bookingId := some b.id, staffId := some b.staffId })

end Visit

namespace Visit

variable (v : Visit) {o : Option BookingProgress} {p : BookingProgress} {g : List BookingExchange}
  {c : Context} {α β : Type}

/-- A query is no change, or the first one, and grounded. -/
def Allows (o : Option BookingProgress) (g : List BookingExchange) (q : BookingQuery) : Prop :=
  q.changes = true → Quiet g ∧ ∃ p, o = some p ∧ v.Grounds p g q

/-- How the context stands where a call ends, well or not. -/
def Left (o : Option BookingProgress) (g : List BookingExchange)
    (r : Except BookingError α × Context) : Prop := v.Turns g o r.2.booking

/-- Work does what a call can do. -/
abbrev Acts (o : Option BookingProgress) (g : List BookingExchange) (w : BookingWork α)
    (c : Context) : Prop :=
  (w c).Traced (v.Allows o) (v.Left o) g

/-- The booking in progress is as it was, or over. -/
def Untouched (o : Option BookingProgress) (c : Context) : Prop :=
  c.booking = o ∨ c.booking = none

variable {v}

theorem Untouched.turns (h : Untouched o c) : v.Turns g o c.booking := by
  rcases h with h | h
  · rw [h]
    exact .stays o
  · rw [h]
    exact .ends o

theorem acts_pure (h : v.Turns g o c.booking) (a : α) : v.Acts o g (pure a) c := h

theorem acts_clear {f : PUnit → BookingWork α} (h : v.Acts o g (f ⟨⟩) c.clearProgress) :
    v.Acts o g (BookingWork.clear >>= f) c := h

theorem acts_ask {q : BookingQuery} {f : q.Answer → BookingWork α} (hc : Untouched o c)
    (hq : v.Allows o g q) (hf : ∀ a, v.Acts o (g ++ [⟨q, .ok a⟩]) (f a) c) :
    v.Acts o g (BookingWork.ask q >>= f) c := by
  refine ⟨hq, fun r => ?_⟩
  cases r with
  | ok a => exact hf a
  | error e => exact hc.turns

theorem acts_read {q : BookingQuery} {f : q.Answer → BookingWork α} (hc : Untouched o c)
    (hq : q.changes = false) (hf : ∀ a, v.Acts o (g ++ [⟨q, .ok a⟩]) (f a) c) :
    v.Acts o g (BookingWork.ask q >>= f) c := by
  refine acts_ask hc (fun h => ?_) hf
  rw [hq] at h
  cases h

/-- What a call leaves does not hang on its result. -/
theorem Acts.map {w : BookingWork α} (h : v.Acts o g w c) (f : α → β) :
    v.Acts o g (w >>= fun a => pure (f a)) c :=
  Work.traced_bind h (fun _ _ _ ht => ht) fun _ _ _ ht => ht

/-! ## Parts that only read -/

/-- Work that asks for no change and leaves the booking in progress as it is. -/
def Reads (w : BookingWork α) : Prop :=
  ∀ c g, (w c).Traced (fun _ q => q.changes = false)
    (fun g' r => (∃ h, g' = g ++ h ∧ Quiet h) ∧ r.2.booking = c.booking) g

theorem reads_pure (a : α) : Reads (pure a : BookingWork α) :=
  fun _ g => ⟨⟨[], by rw [List.append_nil], by simp [Quiet]⟩, rfl⟩

theorem reads_ask {q : BookingQuery} (hq : q.changes = false) : Reads (BookingWork.ask q) := by
  refine fun c g => ⟨hq, fun r => ⟨⟨[⟨q, r⟩], rfl, ?_⟩, rfl⟩⟩
  intro x hx
  rw [List.mem_singleton.1 hx]
  exact hq

theorem Reads.bind {w : BookingWork α} {f : α → BookingWork β} (hw : Reads w)
    (hf : ∀ a, Reads (f a)) : Reads (w >>= f) := by
  intro c g
  refine Work.traced_bind (hw c g) (fun g' a t ht => ?_) fun _ _ _ ht => ht
  obtain ⟨⟨h, rfl, hh⟩, hc⟩ := ht
  refine (hf a t (g ++ h)).mono (fun _ _ hq => hq) fun g'' r hr => ?_
  obtain ⟨⟨h', rfl, hh'⟩, hr⟩ := hr
  refine ⟨⟨h ++ h', by rw [List.append_assoc], fun x hx => ?_⟩, hr.trans hc⟩
  rcases List.mem_append.1 hx with hx | hx
  · exact hh x hx
  · exact hh' x hx

theorem reads_modify {f : Context → Context} (hf : ∀ c, (f c).booking = c.booking) :
    Reads (modify f : BookingWork PUnit) :=
  fun c g => ⟨⟨[], by rw [List.append_nil], by simp [Quiet]⟩, hf c⟩

theorem reads_firstOpen (staff : StaffId) (excluding : Option BookingId) :
    ∀ (n : Nat) (times : List Occurrence), Reads (firstOpen staff excluding n times)
  | 0, _ => by
    unfold firstOpen
    exact reads_pure _
  | _ + 1, [] => by
    unfold firstOpen
    exact reads_pure _
  | n + 1, o :: r => by
    unfold firstOpen
    refine (reads_ask rfl).bind fun room => ?_
    split
    · exact (reads_firstOpen staff excluding n r).bind fun _ => reads_pure _
    · exact reads_firstOpen staff excluding (n + 1) r

theorem reads_openTimes (staff : StaffId) (configured : Option UInt32)
    (excluding : Option BookingId) : Reads (v.openTimes staff configured excluding) := by
  unfold openTimes
  exact (reads_ask rfl).bind fun _ => reads_firstOpen _ _ _ _

theorem reads_announce (b : Booking) (text : String) : Reads (v.announce b text) := by
  unfold announce
  refine (reads_ask rfl).bind fun _ => (reads_ask rfl).bind fun _ => ?_
  refine (reads_modify fun c => ?_).bind fun _ => fun c g => ?_
  · unfold Context.set
    split <;> rfl
  · exact ⟨⟨[], by rw [List.append_nil], by simp [Quiet]⟩, rfl⟩

/-- Goes on after a part that only reads. -/
theorem Reads.acts {w : BookingWork α} (hw : Reads w) {f : α → BookingWork β}
    (hc : Untouched o c)
    (hf : ∀ h a t, Quiet h → t.booking = c.booking → v.Acts o (g ++ h) (f a) t) :
    v.Acts o g (w >>= f) c := by
  refine Work.traced_bind ((hw c g).mono ?_ fun _ _ h => h) (fun g' a t ht => ?_)
    fun g' e t ht => ?_
  · intro _ q hq h
    rw [hq] at h
    cases h
  · obtain ⟨⟨h, rfl, hh⟩, hb⟩ := ht
    exact hf h a t hh hb
  · refine Untouched.turns ?_
    unfold Untouched
    rw [ht.2]
    exact hc

/-- The end of a step that tells of a booking. -/
theorem acts_announce {b : Booking} {text : String} {f : String → β} (hc : c.booking = none) :
    v.Acts o g (v.announce b text >>= fun t => pure (f t)) c := by
  refine (reads_announce b text).acts (.inr hc) fun h a t _ hb => ?_
  refine acts_pure ?_ _
  rw [hb, hc]
  exact .ends o

/-! ## Each step -/

theorem acts_end (s : FlowStep) :
    v.Acts o g (BookingWork.clear >>= fun _ => pure (some s)) c :=
  acts_clear (acts_pure (.ends o) _)

variable (v)

theorem acts_startBooking (id : NodeId) (settings : BookAppointment) :
    v.Acts o g (v.startBooking id settings) c := by
  unfold startBooking
  refine acts_clear (acts_read (.inr rfl) rfl fun departments => ?_)
  split
  · exact acts_pure (.ends o) _
  · exact acts_pure (c := { c.clearProgress with booking := _ }) (.starts o id _ (.inl rfl)) _

theorem acts_startCheck (id : NodeId) (settings : CheckBookings) :
    v.Acts o g (v.startCheck id settings) c := by
  unfold startCheck
  refine acts_clear (acts_read (.inr rfl) rfl fun bookings => ?_)
  split
  · exact acts_pure (.ends o) _
  · split
    · exact acts_pure (.ends o) _
    · exact acts_pure (c := { c.clearProgress with booking := _ }) (.starts o id _ (.inr rfl)) _

section Handlers

variable (hc : c.booking = some p)
include hc

theorem acts_selectDepartment (hp : p.step = .selectDepartment) (settings : BookAppointment)
    (id : DepartmentId) : v.Acts (some p) g (v.selectDepartment p settings id) c := by
  unfold selectDepartment
  refine acts_read (.inl hc) rfl fun department => ?_
  split
  · refine acts_read (.inl hc) rfl fun staff => ?_
    split
    · exact acts_end _
    · exact acts_pure (c := { c with booking := _ })
        (.department hp (List.mem_append_left _ List.mem_concat_self)) _
  · exact acts_pure (Untouched.turns (.inl hc)) _

theorem acts_selectStaff (hp : p.step = .selectStaff) (settings : BookAppointment)
    (id : StaffId) : v.Acts (some p) g (v.selectStaff p settings id) c := by
  unfold selectStaff
  refine acts_read (.inl hc) rfl fun staff => ?_
  split
  · rename_i staff
    split
    · exact acts_pure (Untouched.turns (.inl hc)) _
    · rename_i same
      refine (reads_openTimes _ _ _).acts (.inl hc) fun h times t _ ht => ?_
      split
      · exact acts_end _
      · exact acts_pure (c := { t with booking := _ }) (.staff hp
          (List.mem_append_left _ List.mem_concat_self) (Decidable.not_not.1 same)) _
  · exact acts_pure (Untouched.turns (.inl hc)) _

end Handlers

theorem acts_place {settings : BookAppointment} {department : DepartmentId} {slot : TimeSlot}
    {date : Date} {answers : Option Questionnaire} (hc : c.booking = none) (quiet : Quiet g)
    (grounds : ∀ h, v.Grounds p (g ++ h) (.create (v.request department slot date answers))) :
    v.Acts (some p) g (v.place settings department slot date answers) c := by
  unfold place
  refine acts_read (.inr hc) rfl fun room => ?_
  split
  · refine acts_ask (.inr hc) (fun _ => ⟨quiet.concat rfl, p, rfl, grounds _⟩) fun placement => ?_
    split
    · exact acts_pure (Untouched.turns (.inr hc)) _
    · exact acts_announce hc
  · exact acts_pure (Untouched.turns (.inr hc)) _

/-- The booking that is made is that of `q`, which is what is in progress or goes on from it. -/
theorem acts_complete {q : BookingProgress} {settings : BookAppointment}
    {answers : Option Questionnaire} (quiet : Quiet g)
    (grounds : ∀ department id slot date h, q.departmentId = some department →
      q.slotId = some id → q.date = some date →
      ⟨.getSlot v.accountId id, .ok (some slot)⟩ ∈ h → (∀ x ∈ g, x ∈ h) →
      v.Grounds p h (.create (v.request department slot date answers))) :
    v.Acts (some p) g (v.complete q settings answers) c := by
  unfold complete
  refine acts_clear ?_
  split
  · rename_i department id date hd hi hdate
    refine acts_read (.inr rfl) rfl fun slot => ?_
    split
    · rename_i slot
      refine v.acts_place rfl (quiet.concat rfl) fun h => ?_
      exact grounds department id slot date _ hd hi hdate (by simp) (by simp +contextual)
    · exact acts_pure (.ends _) _
  · exact acts_pure (.ends _) _

section Handlers

variable (hc : c.booking = some p)
include hc

theorem acts_selectSlot (hp : p.step = .selectSlot) (quiet : Quiet g)
    (settings : BookAppointment) (id : SlotId) (date : Date) :
    v.Acts (some p) g (v.selectSlot p settings id date) c := by
  unfold selectSlot
  refine acts_read (.inl hc) rfl fun slot => ?_
  split
  · rename_i slot
    split
    · rename_i fits
      have picks (h : List BookingExchange) (hg : ⟨.getSlot v.accountId id, .ok (some slot)⟩ ∈ h) :
          v.Picks p h id slot date := ⟨hp, hg, fits⟩
      refine acts_read (.inl hc) rfl fun room => ?_
      split
      · dsimp only
        split
        · refine (v.acts_complete ((quiet.concat rfl).concat rfl) ?_).map _
          rintro department _ slot' _ h hd ⟨⟩ ⟨⟩ told sub
          exact .picked (picks h (sub _ (by simp))) hd told
        · rename_i first rest _
          refine acts_pure (c := { c with booking := _, capture := _ })
            (.time (picks _ (by simp)) (BookAppointment.awaitsText_stepOf first)) _
      · exact acts_end _
    · exact acts_pure (Untouched.turns (.inl hc)) _
  · exact acts_pure (Untouched.turns (.inl hc)) _

/-- Goes on with the participant's own booking, if the store gives it. -/
theorem acts_ownBooking? {id : BookingId} {f : Option Booking → BookingWork α}
    (some_ : ∀ b r, v.Owns (g ++ [⟨.get v.accountId id, r⟩]) id b →
      v.Acts (some p) (g ++ [⟨.get v.accountId id, r⟩]) (f (some b)) c)
    (none_ : ∀ r, v.Acts (some p) (g ++ [⟨.get v.accountId id, r⟩]) (f none) c) :
    v.Acts (some p) g (v.ownBooking? id >>= f) c := by
  unfold ownBooking? Acts
  rw [Work.bind_assoc_apply]
  refine acts_read (.inl hc) rfl fun booking => ?_
  change v.Acts (some p) _ (f (booking.filter _)) c
  cases hb : booking.filter fun b => b.phone == v.phone && b.status == .confirmed with
  | none => exact none_ _
  | some b => exact some_ b _ (.of_filter List.mem_concat_self hb)

theorem acts_cancel (quiet : Quiet g) (settings : CheckBookings) (id : BookingId) :
    v.Acts (some p) g (v.cancel settings id) c := by
  unfold cancel
  refine v.acts_ownBooking? hc (fun b r own => ?_) fun r => ?_
  · refine acts_ask (.inl hc) (fun _ => ⟨quiet.concat rfl, p, rfl, .cancelled own⟩) fun done => ?_
    split
    · exact acts_clear (acts_announce rfl)
    · exact acts_pure (Untouched.turns (.inl hc)) _
  · exact acts_pure (Untouched.turns (.inl hc)) _

theorem acts_startReschedule (hp : p.step = .selectBooking) (settings : CheckBookings)
    (id : BookingId) : v.Acts (some p) g (v.startReschedule p settings id) c := by
  unfold startReschedule
  refine v.acts_ownBooking? hc (fun b r own => ?_) fun r => ?_
  · refine (reads_openTimes _ _ _).acts (.inl hc) fun h times t _ ht => ?_
    dsimp only
    split
    · exact acts_end _
    · exact acts_pure (c := { t with booking := _ })
        (.newTime hp ⟨List.mem_append_left _ own.told, own.phone, own.stands⟩) _
  · exact acts_pure (Untouched.turns (.inl hc)) _

theorem acts_selectNewSlot (hp : p.step = .selectNewSlot) (quiet : Quiet g)
    (settings : CheckBookings) (id : SlotId) (date : Date) :
    v.Acts (some p) g (v.selectNewSlot p settings id date) c := by
  unfold selectNewSlot
  split
  · rename_i bookingId hid
    refine acts_read (.inl hc) rfl fun slot => ?_
    split
    · rename_i slot
      split
      · rename_i fits
        refine v.acts_ownBooking? hc (fun b r own => ?_) fun r => ?_
        · refine acts_ask (.inl hc) (fun _ => ⟨(quiet.concat rfl).concat rfl, p, rfl, ?_⟩)
            fun placement => ?_
          · exact .moved hp hid (List.mem_append_left _ List.mem_concat_self) fits own
          · refine acts_clear ?_
            split
            · exact acts_pure (.ends _) _
            · exact acts_pure (.ends _) _
            · exact acts_announce rfl
        · exact acts_pure (Untouched.turns (.inl hc)) _
      · exact acts_pure (Untouched.turns (.inl hc)) _
    · exact acts_pure (Untouched.turns (.inl hc)) _
  · exact acts_pure (Untouched.turns (.inl hc)) _

theorem acts_select (quiet : Quiet g) {flow : BookingFlow} {step : BookingStep}
    (hp : p.step = step) (s : Selection) : v.Acts (some p) g (v.select p flow step s) c := by
  unfold select
  split
  · exact v.acts_selectDepartment hc hp _ _
  · exact v.acts_selectStaff hc hp _ _
  · exact v.acts_selectSlot hc hp quiet _ _ _
  · split
    · exact v.acts_cancel hc quiet _ _
    · exact acts_pure (Untouched.turns (.inl hc)) _
  · split
    · exact v.acts_startReschedule hc hp _ _
    · exact acts_pure (Untouched.turns (.inl hc)) _
  · exact v.acts_selectNewSlot hc hp quiet _ _ _
  · exact acts_pure (Untouched.turns (.inl hc)) _

/-! ## Calls -/

theorem acts_takeSelection (quiet : Quiet g) (s : Selection) :
    v.Acts (some p) g (v.takeSelection p s) c := by
  unfold takeSelection
  refine Work.traced_bind (v.acts_select hc quiet rfl s) (fun h o t left => ?_) fun _ _ _ h => h
  split
  · exact left
  · exact acts_clear (acts_pure (.ends _) _)

end Handlers

theorem acts_takeAnswer (hp : p.step.awaitsText = true) (quiet : Quiet g)
    (settings : BookAppointment) (q : Questionnaire) :
    v.Acts (some p) g (v.takeAnswer p settings q) c := by
  unfold takeAnswer
  split
  · rename_i next _
    exact acts_pure (c := { c with booking := _, capture := _ })
      (.question hp (BookAppointment.awaitsText_stepOf next)) _
  · refine v.acts_complete quiet fun department id slot date h hd hi hdate told _ => ?_
    exact .answered hp hd hi hdate told

theorem acts_takeReply (quiet : Quiet g) (replyId : String) :
    v.Acts c.booking g (v.takeReply replyId) c := by
  unfold Acts
  rw [takeReply_apply]
  split
  · rename_i s p _ hp
    rw [hp]
    exact v.acts_takeSelection hp quiet s
  · exact .stays _

theorem acts_takeText (quiet : Quiet g) (text : String) :
    v.Acts c.booking g (v.takeText text) c := by
  unfold Acts
  rw [takeText_apply]
  split
  · rename_i p q hp _
    split
    · rename_i waits _
      rw [hp]
      exact (v.acts_takeAnswer waits quiet _ _).map _
    · exact .stays _
  · exact .stays _

end Visit

namespace FlowCall

/-- The visit that a call is made in. -/
def visit : FlowCall → Visit
  | .book v _ _ | .check v _ _ | .reply v _ | .text v _ => v

/-- Whatever the store answers, a call asks for at most one change, a grounded one, and carries a
booking on as one can be. -/
theorem acts_work (call : FlowCall) (c : Context) :
    call.visit.Acts c.booking [] call.work c := by
  have quiet : Quiet [] := by simp [Quiet]
  cases call with
  | book v id settings => exact (v.acts_startBooking id settings).map _
  | check v id settings => exact (v.acts_startCheck id settings).map _
  | reply v replyId => exact v.acts_takeReply quiet replyId
  | text v body => exact (v.acts_takeText quiet body).map _

end FlowCall

end Dialogue
