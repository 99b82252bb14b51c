import Dialogue.Proofs.Booking.Writes

/-!
# What a context is in the middle of

A context says twice that a text is awaited: its booking stands at a step that waits for one, and
it holds the questions that are still open. `Context.Coherent` says that the two agree. Flows are
only ever carried on by calls (`FlowCall`), and whatever the calls, the replies and the store, they
leave a context coherent, in the middle of a booking exactly if their step waits for a reply
(`coherent_session`).

Every exit of a step keeps the booking, and then the step waits for a reply, or clears both; so
what a step leaves is said by one predicate (`FlowStep.LeftIn`), which the steps are shown to
satisfy one by one.
-/

namespace Dialogue

namespace Context

/-- The context is in the middle of nothing. -/
def Idle (c : Context) : Prop := c.booking = none ∧ c.capture = none

/-- Questions are open exactly if a booking waits for a text, and it waits for the answer to the
first of them. -/
structure Coherent (c : Context) : Prop where
  capture_iff : c.capture.isSome ↔
    ∃ p settings, c.booking = some p ∧ p.step.awaitsText ∧ p.flow = .book settings
  first : ∀ q, c.capture = some q → ∃ p open₁ rest, c.booking = some p
    ∧ q.pending = open₁ :: rest ∧ p.step = BookAppointment.stepOf open₁

theorem idle_clearProgress (c : Context) : c.clearProgress.Idle := ⟨rfl, rfl⟩

theorem idle_set {c : Context} (h : c.Idle) (key : String) (value : Json) :
    (c.set key value).Idle := by
  unfold set
  split
  · exact h
  · exact h

theorem Idle.coherent {c : Context} (h : c.Idle) : c.Coherent := by
  obtain ⟨hb, hq⟩ := h
  constructor
  · simp [hb, hq]
  · intro q h
    rw [hq] at h
    cases h

/-- A context without open questions may keep any booking that waits for a reply. -/
theorem coherent_keep {c : Context} (hq : c.capture = none) {p : BookingProgress}
    (hp : p.step.awaitsText = false) : ({ c with booking := some p } : Context).Coherent := by
  constructor
  · simp [hq, hp]
  · intro q h
    rw [show ({ c with booking := some p } : Context).capture = c.capture from rfl, hq] at h
    cases h

theorem Coherent.capture_eq_none {c : Context} (h : c.Coherent) {p : BookingProgress}
    (hp : c.booking = some p) (hs : p.step.awaitsText = false) : c.capture = none := by
  rcases hq : c.capture with _ | q
  · rfl
  · obtain ⟨p', settings, hp', hs', -⟩ := h.capture_iff.1 (by rw [hq]; rfl)
    rw [hp] at hp'
    cases hp'
    rw [hs] at hs'
    cases hs'

end Context

theorem BookAppointment.awaitsText_stepOf (q : Question) :
    (BookAppointment.stepOf q).awaitsText = true := by
  unfold BookAppointment.stepOf
  split
  · rfl
  · split <;> rfl

namespace FlowStep

/-- The step leaves a context in the middle of a booking if it waits for a reply, and else of
nothing. -/
structure LeftIn (s : FlowStep) (c : Context) : Prop where
  coherent : c.Coherent
  awaiting : s.transition = .awaitReply → c.booking.isSome
  ended : s.transition ≠ .awaitReply → c.Idle

theorem LeftIn.of_idle {s : FlowStep} {c : Context} (hs : s.transition ≠ .awaitReply)
    (hc : c.Idle) : s.LeftIn c :=
  ⟨hc.coherent, fun h => absurd h hs, fun _ => hc⟩

theorem LeftIn.keep {s : FlowStep} {c : Context} (hs : s.transition = .awaitReply)
    (hq : c.capture = none) {p : BookingProgress} (hp : p.step.awaitsText = false) :
    s.LeftIn { c with booking := some p } :=
  ⟨Context.coherent_keep hq hp, fun _ => rfl, fun h => absurd hs h⟩

/-- A question is asked where the booking is at its step and it is the first open one. -/
theorem LeftIn.ask {s : FlowStep} {c : Context} {p : BookingProgress} {settings : BookAppointment}
    {q : Questionnaire} {open₁ : Question} {rest : List Question}
    (hs : s.transition = .awaitReply) (hb : c.booking = some p) (hq : c.capture = some q)
    (hf : p.flow = .book settings) (hp : p.step = BookAppointment.stepOf open₁)
    (ho : q.pending = open₁ :: rest) : s.LeftIn c := by
  have waits : p.step.awaitsText = true := by
    rw [hp]
    exact BookAppointment.awaitsText_stepOf open₁
  refine ⟨⟨⟨fun _ => ⟨p, settings, hb, waits, hf⟩, fun _ => ?_⟩, ?_⟩, fun _ => ?_, ?_⟩
  · rw [hq]
    rfl
  · intro q' hq'
    rw [hq] at hq'
    cases hq'
    exact ⟨p, open₁, rest, hb, ho, hp⟩
  · rw [hb]
    rfl
  · exact fun h => absurd hs h

end FlowStep

/-! ## Each step -/

/-- Work of a booking that starts in a context of a kind leaves one that `post` relates to its
result, and if it fails a coherent one. -/
abbrev BookingWork.Leaves {α : Type} (pre : Context → Prop) (w : BookingWork α)
    (post : α → Context → Prop) : Prop :=
  Work.Leaves pre w post Context.Coherent

namespace Visit

open BookingWork
open Work.Leaves

variable (v : Visit) {α : Type}

/-- Nothing is open that a text would answer. -/
def Unasked (c : Context) : Prop := c.Coherent ∧ c.capture = none

/-- The step, if there is one, leaves the context so. -/
def StepLeftIn (o : Option FlowStep) (c : Context) : Prop := ∀ s, o = some s → s.LeftIn c

theorem leaves_ask {pre : Context → Prop} (hpre : ∀ c, pre c → c.Coherent) (q : BookingQuery) :
    BookingWork.Leaves pre (ask q) fun _ => pre := by
  intro c hc
  refine .ask fun r => ⟨trivial, .done ?_⟩
  cases r with
  | ok a => exact hc
  | error e => exact hpre c hc

theorem leaves_clear {pre : Context → Prop} : BookingWork.Leaves pre clear fun _ => Context.Idle :=
  modify fun c _ => c.idle_clearProgress

theorem leaves_pure_none {pre : Context → Prop} :
    BookingWork.Leaves pre (Pure.pure none) StepLeftIn :=
  pure fun _ _ _ h => by cases h

/-- An end without a reply is left by a context in the middle of nothing. -/
theorem leaves_end {pre : Context → Prop} {s : FlowStep} (hs : s.transition ≠ .awaitReply) :
    BookingWork.Leaves pre (clear >>= fun _ => Pure.pure (some s)) StepLeftIn :=
  bind leaves_clear fun _ => pure fun _ hc _ h => by
    cases h
    exact .of_idle hs hc

/-- A list is left by a context in the middle of the booking. -/
theorem leaves_keep {p : BookingProgress} (hp : p.step.awaitsText = false) {s : FlowStep}
    (hs : s.transition = .awaitReply) :
    BookingWork.Leaves Unasked (keep p >>= fun _ => Pure.pure (some s)) StepLeftIn := by
  refine bind (m := fun _ => s.LeftIn) (modify fun c hc => ?_) fun _ => pure fun c hc _ h => ?_
  · exact .keep hs hc.2 hp
  · cases h
    exact hc

theorem leaves_unasked_ask (q : BookingQuery) :
    BookingWork.Leaves Unasked (ask q) fun _ => Unasked :=
  leaves_ask (fun _ h => h.1) q

theorem leaves_idle_ask (q : BookingQuery) :
    BookingWork.Leaves Context.Idle (ask q) fun _ => Context.Idle :=
  leaves_ask (fun _ h => h.coherent) q

theorem leaves_firstOpen (staff : StaffId) (excluding : Option BookingId) :
    ∀ (n : Nat) (times : List Occurrence),
      BookingWork.Leaves Unasked (firstOpen staff excluding n times) fun _ => Unasked
  | 0, _ => by
    unfold firstOpen
    exact pure fun _ h => h
  | _ + 1, [] => by
    unfold firstOpen
    exact pure fun _ h => h
  | n + 1, o :: r => by
    unfold firstOpen
    refine bind (leaves_unasked_ask _) fun room => ?_
    split
    · exact bind (leaves_firstOpen staff excluding n r) fun _ => pure fun _ h => h
    · exact leaves_firstOpen staff excluding (n + 1) r

theorem leaves_openTimes (staff : StaffId) (configured : Option UInt32)
    (excluding : Option BookingId) :
    BookingWork.Leaves Unasked (v.openTimes staff configured excluding) fun _ => Unasked := by
  unfold openTimes
  exact bind (leaves_unasked_ask _) fun weekly => leaves_firstOpen staff excluding _ _

theorem leaves_ownBooking? (id : BookingId) :
    BookingWork.Leaves Unasked (v.ownBooking? id) fun _ => Unasked := by
  unfold ownBooking?
  exact bind (leaves_unasked_ask _) fun _ => pure fun _ h => h

theorem leaves_announce (b : Booking) (text : String) :
    BookingWork.Leaves Context.Idle (v.announce b text) fun _ => Context.Idle := by
  unfold announce
  refine bind (leaves_idle_ask _) fun department => ?_
  refine bind (leaves_idle_ask _) fun staff => ?_
  refine bind (m := fun _ => Context.Idle) (modify fun c hc => ?_) fun _ => ?_
  · exact c.idle_set hc _ _
  · exact fun c hc => .done hc

theorem leaves_startBooking (id : NodeId) (settings : BookAppointment) :
    BookingWork.Leaves (fun _ => True) (v.startBooking id settings) FlowStep.LeftIn := by
  unfold startBooking
  refine bind leaves_clear fun _ => bind (leaves_idle_ask _) fun departments => ?_
  split
  · exact pure fun _ hc => .of_idle nofun hc
  · exact bind (m := fun _ => FlowStep.LeftIn _) (modify fun c hc => .keep rfl hc.2 rfl)
      fun _ => pure fun _ hc => hc

theorem leaves_startCheck (id : NodeId) (settings : CheckBookings) :
    BookingWork.Leaves (fun _ => True) (v.startCheck id settings) FlowStep.LeftIn := by
  unfold startCheck
  refine bind leaves_clear fun _ => bind (leaves_idle_ask _) fun bookings => ?_
  split
  · exact pure fun _ hc => .of_idle nofun hc
  · split
    · exact pure fun _ hc => .of_idle nofun hc
    · exact bind (m := fun _ => FlowStep.LeftIn _) (modify fun c hc => .keep rfl hc.2 rfl)
        fun _ => pure fun _ hc => hc

theorem leaves_selectDepartment (p : BookingProgress) (c : BookAppointment) (id : DepartmentId) :
    BookingWork.Leaves Unasked (v.selectDepartment p c id) StepLeftIn := by
  unfold selectDepartment
  refine bind (leaves_unasked_ask _) fun department => ?_
  split
  · refine bind (leaves_unasked_ask _) fun staff => ?_
    split
    · exact leaves_end nofun
    · exact leaves_keep rfl rfl
  · exact leaves_pure_none

theorem leaves_selectStaff (p : BookingProgress) (c : BookAppointment) (id : StaffId) :
    BookingWork.Leaves Unasked (v.selectStaff p c id) StepLeftIn := by
  unfold selectStaff
  refine bind (leaves_unasked_ask _) fun staff => ?_
  split
  · split
    · exact leaves_pure_none
    · refine bind (v.leaves_openTimes _ _ _) fun times => ?_
      split
      · exact leaves_end nofun
      · exact leaves_keep rfl rfl
  · exact leaves_pure_none

theorem leaves_place (c : BookAppointment) (department : DepartmentId) (slot : TimeSlot)
    (date : Date) (answers : Option Questionnaire) :
    BookingWork.Leaves Context.Idle (v.place c department slot date answers) FlowStep.LeftIn := by
  unfold place
  refine bind (leaves_idle_ask _) fun room => ?_
  split
  · refine bind (leaves_idle_ask _) fun placement => ?_
    split
    · exact pure fun _ hc => .of_idle nofun hc
    · exact bind (v.leaves_announce _ _) fun text => pure fun _ hc => .of_idle nofun hc
  · exact pure fun _ hc => .of_idle nofun hc

theorem leaves_complete (p : BookingProgress) (c : BookAppointment)
    (answers : Option Questionnaire) :
    BookingWork.Leaves (fun _ => True) (v.complete p c answers) FlowStep.LeftIn := by
  unfold complete
  refine bind leaves_clear fun _ => ?_
  split
  · refine bind (leaves_idle_ask _) fun slot => ?_
    split
    · exact v.leaves_place c _ _ _ answers
    · exact pure fun _ hc => .of_idle nofun hc
  · exact pure fun _ hc => .of_idle nofun hc

theorem leaves_selectSlot {p : BookingProgress} {c : BookAppointment} (hp : p.flow = .book c)
    (id : SlotId) (date : Date) :
    BookingWork.Leaves Unasked (v.selectSlot p c id date) StepLeftIn := by
  unfold selectSlot
  refine bind (leaves_unasked_ask _) fun slot => ?_
  split
  · split
    · refine bind (leaves_unasked_ask _) fun room => ?_
      split
      · dsimp only
        split
        · exact bind ((v.leaves_complete _ c none).mono (fun _ _ => trivial) fun _ _ h => h)
            fun step => pure fun _ hc _ h => by cases h; exact hc
        · -- The questions go in before the booking stands at their step: coherent only with both.
          rename_i open₁ rest _
          refine bind (m := fun _ c => c.capture = some (.start p.nodeId (open₁ :: rest)))
            (modify fun _ _ => rfl) fun _ => ?_
          refine bind (m := fun _ => FlowStep.LeftIn _) (modify fun c hc => ?_)
            fun _ => pure fun _ hc _ h => by cases h; exact hc
          exact .ask rfl rfl hc hp rfl rfl
      · exact leaves_end nofun
    · exact leaves_pure_none
  · exact leaves_pure_none

theorem leaves_cancel (c : CheckBookings) (id : BookingId) :
    BookingWork.Leaves Unasked (v.cancel c id) StepLeftIn := by
  unfold cancel
  refine bind (v.leaves_ownBooking? id) fun booking => ?_
  split
  · refine bind (leaves_unasked_ask _) fun done => ?_
    split
    · refine bind leaves_clear fun _ => bind (v.leaves_announce _ _) fun text => ?_
      exact pure fun _ hc _ h => by
        cases h
        exact .of_idle nofun hc
    · exact leaves_pure_none
  · exact leaves_pure_none

theorem leaves_startReschedule (p : BookingProgress) (c : CheckBookings) (id : BookingId) :
    BookingWork.Leaves Unasked (v.startReschedule p c id) StepLeftIn := by
  unfold startReschedule
  refine bind (v.leaves_ownBooking? id) fun booking => ?_
  split
  · refine bind (v.leaves_openTimes _ _ _) fun times => ?_
    dsimp only
    split
    · exact leaves_end nofun
    · exact leaves_keep rfl rfl
  · exact leaves_pure_none

theorem leaves_selectNewSlot (p : BookingProgress) (c : CheckBookings) (id : SlotId)
    (date : Date) : BookingWork.Leaves Unasked (v.selectNewSlot p c id date) StepLeftIn := by
  unfold selectNewSlot
  split
  · refine bind (leaves_unasked_ask _) fun slot => ?_
    split
    · split
      · refine bind (v.leaves_ownBooking? _) fun booking => ?_
        split
        · refine bind (leaves_unasked_ask _) fun placement => bind leaves_clear fun _ => ?_
          split
          · exact leaves_pure_none
          · exact pure fun _ hc _ h => by
              cases h
              exact .of_idle nofun hc
          · refine bind (v.leaves_announce _ _) fun text => ?_
            exact pure fun _ hc _ h => by
              cases h
              exact .of_idle nofun hc
        · exact leaves_pure_none
      · exact leaves_pure_none
    · exact leaves_pure_none
  · exact leaves_pure_none

/-- A selection is taken at a step that waits for a reply, so no question is open. -/
theorem leaves_select {p : BookingProgress} {flow : BookingFlow} (hf : p.flow = flow)
    {step : BookingStep} (hs : p.step = step) (s : Selection) :
    BookingWork.Leaves (fun c => c.Coherent ∧ c.booking = some p) (v.select p flow step s)
      StepLeftIn := by
  have unasked (h : step.awaitsText = false) :
      ∀ c : Context, c.Coherent ∧ c.booking = some p → Unasked c := fun c hc =>
    ⟨hc.1, hc.1.capture_eq_none hc.2 (hs ▸ h)⟩
  unfold select
  split
  · exact (v.leaves_selectDepartment p _ _).mono (unasked rfl) fun _ _ h => h
  · exact (v.leaves_selectStaff p _ _).mono (unasked rfl) fun _ _ h => h
  · exact (v.leaves_selectSlot hf _ _).mono (unasked rfl) fun _ _ h => h
  · split
    · exact (v.leaves_cancel _ _).mono (unasked rfl) fun _ _ h => h
    · exact leaves_pure_none
  · split
    · exact (v.leaves_startReschedule p _ _).mono (unasked rfl) fun _ _ h => h
    · exact leaves_pure_none
  · exact (v.leaves_selectNewSlot p _ _ _).mono (unasked rfl) fun _ _ h => h
  · exact leaves_pure_none

end Visit

/-! ## Calls -/

/-- What a reply or a text came to leaves a context so: as it was, in the middle of nothing, or as
the step leaves it. -/
def ReplyHandling.LeftIn (before : Context) : ReplyHandling → Context → Prop
  | .notForFlow, c => c = before
  | .rejected, c => c.Idle
  | .handled step, c => step.LeftIn c

namespace Visit

open BookingWork
open Work.Leaves

variable (v : Visit) {c : Context}

theorem leaves_takeSelection {p : BookingProgress} (s : Selection) :
    BookingWork.Leaves (fun c => c.Coherent ∧ c.booking = some p) (v.takeSelection p s)
      (ReplyHandling.LeftIn c) := by
  unfold takeSelection
  refine bind (v.leaves_select rfl rfl s) fun o => ?_
  split
  · exact pure fun _ h => h _ rfl
  · exact bind leaves_clear fun _ => pure fun _ h => h

theorem leaves_takeReply (hc : c.Coherent) (replyId : String) :
    BookingWork.Leaves (· = c) (v.takeReply replyId) (ReplyHandling.LeftIn c) := by
  rintro _ rfl
  rw [takeReply_apply]
  split
  · rename_i s p _ hp
    exact v.leaves_takeSelection s _ ⟨hc, hp⟩
  · exact .done rfl

theorem leaves_takeAnswer {p : BookingProgress} {settings : BookAppointment}
    (hp : p.flow = .book settings) (q : Questionnaire) :
    BookingWork.Leaves (fun _ => True) (v.takeAnswer p settings q) FlowStep.LeftIn := by
  unfold takeAnswer
  split
  · rename_i open₁ hq
    obtain ⟨rest, ho⟩ := List.head?_eq_some_iff.1 hq
    refine bind (m := fun _ c => c.booking = some (p.atStep (BookAppointment.stepOf open₁)))
      (modify fun _ _ => rfl) fun _ => ?_
    refine bind (m := fun _ => FlowStep.LeftIn _) (modify fun c hb => ?_) fun _ => pure fun _ h => h
    exact .ask rfl hb rfl hp rfl ho
  · exact v.leaves_complete p settings _

/-- A text is taken or leaves the context as it was. -/
theorem leaves_takeText (hc : c.Coherent) (text : String) :
    BookingWork.Leaves (· = c) (v.takeText text)
      fun o => ReplyHandling.LeftIn c (o.elim .notForFlow .handled) := by
  rintro _ rfl
  rw [takeText_apply]
  split
  · split
    · rename_i settings _ hf
      refine bind (v.leaves_takeAnswer hf _) (fun step => pure fun _ h => ?_) _ trivial
      exact h
    · exact .done rfl
  · exact .done rfl

end Visit

/-- A call that starts a flow or carries it on, and the visit it is made in. -/
inductive FlowCall where
  | book (v : Visit) (id : NodeId) (settings : BookAppointment)
  | check (v : Visit) (id : NodeId) (settings : CheckBookings)
  | reply (v : Visit) (replyId : String)
  | text (v : Visit) (body : String)

namespace FlowCall

/-- What the call does. A text that nobody waits for is not for the flow. -/
def work : FlowCall → BookingWork ReplyHandling
  | .book v id settings => do
    let step ← v.startBooking id settings
    pure (.handled step)
  | .check v id settings => do
    let step ← v.startCheck id settings
    pure (.handled step)
  | .reply v replyId => v.takeReply replyId
  | .text v body => do
    let step ← v.takeText body
    pure (step.elim .notForFlow .handled)

theorem leaves_work {c : Context} (hc : c.Coherent) (call : FlowCall) :
    BookingWork.Leaves (· = c) call.work (ReplyHandling.LeftIn c) := by
  have handled {w : BookingWork FlowStep}
      (hw : BookingWork.Leaves (fun _ => True) w FlowStep.LeftIn) :
      BookingWork.Leaves (· = c) (w >>= fun step => pure (.handled step))
        (ReplyHandling.LeftIn c) :=
    (hw.mono (fun _ _ => trivial) fun _ _ h => h).bind fun _ => .pure fun _ h => h
  cases call with
  | book v id settings => exact handled (v.leaves_startBooking id settings)
  | check v id settings => exact handled (v.leaves_startCheck id settings)
  | reply v replyId => exact v.leaves_takeReply hc replyId
  | text v body => exact (v.leaves_takeText hc body).bind fun _ => .pure fun _ h => h

theorem coherent_of_runs (call : FlowCall) {c : Context} (hc : c.Coherent)
    {h : List BookingExchange} {r : Except BookingError ReplyHandling × Context}
    (run : (call.work c).Runs h r) : r.2.Coherent ∧ ∀ a, r.1 = .ok a → a.LeftIn c r.2 := by
  have hleft := (call.leaves_work hc c rfl h r run).2
  obtain ⟨err | _ | _ | step, c'⟩ := r
  · exact ⟨hleft, nofun⟩
  · obtain rfl : c' = c := hleft
    exact ⟨hc, by rintro _ ⟨⟩; rfl⟩
  · exact ⟨Context.Idle.coherent hleft, by rintro _ ⟨⟩; exact hleft⟩
  · exact ⟨FlowStep.LeftIn.coherent hleft, by rintro _ ⟨⟩; exact hleft⟩

variable {σ : Type} (answer : (q : BookingQuery) → σ → Except BookingError q.Answer × σ)

/-- What a call comes to, the context it leaves, and the store afterwards. -/
def run (call : FlowCall) (s : Context × σ) :
    (Except BookingError ReplyHandling × Context) × σ :=
  (call.work s.1).run answer s.2

/-- The context and the store that calls leave, one after another, whether they fail or not. -/
def runAll (calls : List FlowCall) (s : Context × σ) : Context × σ :=
  calls.foldl (fun s call => ((call.run answer s).1.2, (call.run answer s).2)) s

theorem coherent_run (call : FlowCall) {s : Context × σ} (hs : s.1.Coherent) :
    (call.run answer s).1.2.Coherent
      ∧ ∀ a, (call.run answer s).1.1 = .ok a → a.LeftIn s.1 (call.run answer s).1.2 :=
  call.coherent_of_runs hs (Program.runs_history answer (call.work s.1) s.2)

theorem coherent_runAll : ∀ (calls : List FlowCall) {s : Context × σ}, s.1.Coherent →
    (runAll answer calls s).1.Coherent
  | [], _, hs => hs
  | call :: calls, _, hs => coherent_runAll calls (coherent_run answer call hs).1

/-- Whatever the store answers, calls on one context that starts empty leave it coherent; and a
further call leaves it coherent too, in the middle of a booking exactly if its step waits for a
reply, of nothing where the flow is over or the reply was rejected, and as it was where the reply
or the text is not for the flow. -/
theorem coherent_session (calls : List FlowCall) (call : FlowCall) (store : σ) :
    let before := runAll answer calls (.empty, store)
    let after := call.run answer before
    before.1.Coherent ∧ after.1.2.Coherent ∧ match after.1.1 with
      | .ok (.handled step) => (after.1.2.booking.isSome ↔ step.transition = .awaitReply)
          ∧ (step.transition ≠ .awaitReply → after.1.2.booking = none ∧ after.1.2.capture = none)
      | .ok .rejected => after.1.2.booking = none ∧ after.1.2.capture = none
      | .ok .notForFlow => after.1.2 = before.1
      | .error _ => True := by
  intro before after
  have hempty : Context.Coherent .empty := Context.Idle.coherent ⟨rfl, rfl⟩
  have hbefore : before.1.Coherent := coherent_runAll answer calls hempty
  obtain ⟨hafter, hleft⟩ := coherent_run answer call hbefore
  refine ⟨hbefore, hafter, ?_⟩
  rcases hr : after.1.1 with err | _ | _ | step
  · trivial
  · exact hleft _ hr
  · exact hleft _ hr
  · have hstep : step.LeftIn after.1.2 := hleft _ hr
    refine ⟨⟨fun hb => ?_, hstep.awaiting⟩, hstep.ended⟩
    by_cases hs : step.transition = .awaitReply
    · exact hs
    · rw [(hstep.ended hs).1] at hb
      cases hb

end FlowCall

end Dialogue
