import Dialogue.Proofs.Booking.Served

/-!
# Times that are over

Only times that have not started are offered, but a list can be replied to late, and so can the
questions that come after it. What is checked then is that the date of a reply is not past. The time
of the day is not looked at (`selectSlot_now`, `selectNewSlot_now`), and where a question is
answered neither is the date (`takeText_clock`).

So a booking is made or moved to a time ahead of the call, with two exceptions: the time is today
and has started, or the booking is made of the answer to a question and the date was not past when
it was selected (`ahead_or_late`).
-/

namespace Dialogue

/-- The date and the time that a query asks a place for. -/
def BookingQuery.booked? : BookingQuery → Option (Date × TimeOfDay)
  | .create r => some (r.date, r.time)
  | .reschedule _ _ slot date => some (date, slot.startTime)
  | _ => none

theorem BookingQuery.changes_of_booked? {q : BookingQuery} {w : Date × TimeOfDay}
    (h : q.booked? = some w) : q.changes = true := by
  cases q <;> first | rfl | cases h

namespace Visit

variable (v : Visit)

/-- A time starts after the visit. -/
def IsAhead (date : Date) (time : TimeOfDay) : Prop :=
  v.today < date ∨ v.today = date ∧ v.now < time

theorem isAhead_or_started {date : Date} (h : v.today ≤ date) (time : TimeOfDay) :
    v.IsAhead date time ∨ v.today = date ∧ time ≤ v.now := by
  rcases Int.lt_or_eq_of_le (show v.today.day ≤ date.day from h) with hlt | heq
  · exact .inl (.inl hlt)
  · have today : v.today = date := by
      cases hv : v.today
      cases date
      simp_all
    rcases Nat.lt_or_ge v.now.rank time.rank with hlt | hge
    · exact .inl (.inr ⟨today, hlt⟩)
    · exact .inr ⟨today, hge⟩

/-- While questions are asked, the date is that from before, or was just selected and not past. -/
theorem Turns.awaits {v : Visit} {g : List BookingExchange} {o o' : Option BookingProgress}
    (turns : v.Turns g o o') {p' : BookingProgress} (hp' : o' = some p')
    (waits : p'.step.awaitsText = true) :
    (∃ p, o = some p ∧ p.step.awaitsText = true ∧ p'.date = p.date)
      ∨ ∃ p date, o = some p ∧ p.step = .selectSlot ∧ p'.date = some date ∧ v.today ≤ date := by
  subst hp'
  cases turns with
  | stays => exact .inl ⟨p', rfl, waits, rfl⟩
  | starts _ id flow first => rcases first with rfl | rfl <;> cases waits
  | department | staff | newTime => cases waits
  | @time p id slot date step picks =>
    exact .inr ⟨p, date, rfl, picks.step, rfl, (fits_iff.1 picks.fits).2.2⟩
  | @question p step before => exact .inl ⟨p, rfl, before, rfl⟩

/-- A reply does not fit where a question is asked. -/
theorem select_of_awaitsText (p : BookingProgress) (flow : BookingFlow) {step : BookingStep}
    (waits : step.awaitsText = true) (s : Selection) : v.select p flow step s = pure none := by
  unfold select
  split <;> first | rfl | cases waits

theorem takeSelection_of_awaitsText {p : BookingProgress} (waits : p.step.awaitsText = true)
    (s : Selection) (c : Context) :
    v.takeSelection p s c = .done (.ok .rejected, c.clearProgress) := by
  unfold takeSelection
  rw [v.select_of_awaitsText p p.flow waits s]
  rfl

/-- A text is for no flow where a reply is waited for. -/
theorem takeText_of_not_awaitsText {p : BookingProgress} {c : Context} (hp : c.booking = some p)
    (waits : p.step.awaitsText = false) (text : String) :
    v.takeText text c = .done (.ok none, c) := by
  rw [takeText_apply, hp]
  cases c.capture with
  | none => rfl
  | some q =>
    dsimp only
    rw [waits]

/-! ## What is not looked at -/

variable (today : Date) (now : TimeOfDay)

theorem place_clock : ({ v with today := today, now := now } : Visit).place = v.place := by
  funext settings department slot date answers
  unfold place
  refine congrArg _ (funext fun room => ?_)
  split
  · refine congrArg (Bind.bind _) (funext fun (placement : Placement) => ?_)
    cases placement <;> rfl
  · rfl

theorem complete_clock : ({ v with today := today, now := now } : Visit).complete = v.complete := by
  funext p settings answers
  unfold complete
  refine congrArg _ (funext fun _ => ?_)
  rw [place_clock]
  split
  · refine congrArg (Bind.bind _) (funext fun (slot : Option TimeSlot) => ?_)
    cases slot <;> rfl
  · rfl

/-- No day and no time of the day is too late to answer a question. -/
theorem takeText_clock : ({ v with today := today, now := now } : Visit).takeText = v.takeText := by
  unfold takeText takeAnswer
  rw [complete_clock]

/-- On the day of a time it is never too late to select it. -/
theorem selectSlot_now : ({ v with now := now } : Visit).selectSlot = v.selectSlot := by
  funext p settings id date
  have complete := v.complete_clock v.today now
  unfold selectSlot
  rw [complete]
  refine congrArg (Bind.bind _) (funext fun (slot : Option TimeSlot) => ?_)
  cases slot <;> rfl

/-- On the day of a time it is never too late to move a booking to it. -/
theorem selectNewSlot_now : ({ v with now := now } : Visit).selectNewSlot = v.selectNewSlot := by
  funext p settings id date
  unfold selectNewSlot
  split
  · refine congrArg (Bind.bind _) (funext fun (slot : Option TimeSlot) => ?_)
    cases slot with
    | none => rfl
    | some slot =>
      refine congrArg (ite (v.fits p slot date = true) · (pure none)) ?_
      refine congrArg (Bind.bind _) (funext fun (own : Option Booking) => ?_)
      cases own with
      | none => rfl
      | some b =>
        refine congrArg (Bind.bind _) (funext fun (placement : Option Placement) => ?_)
        rcases placement with _ | _ | _ <;> rfl
  · rfl

end Visit

namespace FlowCall

/-! ## When a time was selected -/

variable {call : FlowCall} {c : Context} {h : List BookingExchange}
  {r : Except BookingError ReplyHandling × Context}

/-- A call that starts a flow. -/
def IsStart : FlowCall → Prop
  | .book .. | .check .. => True
  | .reply .. | .text .. => False

/-- A call that answers a question. -/
def IsText : FlowCall → Prop
  | .text .. => True
  | .book .. | .check .. | .reply .. => False

/-- Calls that start a flow do the same whatever is in progress. -/
theorem IsStart.acts (start : call.IsStart) (c : Context) (o : Option BookingProgress) :
    call.visit.Acts o [] call.work c := by
  cases call with
  | book v id settings => exact (v.acts_startBooking id settings).map _
  | check v id settings => exact (v.acts_startCheck id settings).map _
  | reply | text => cases start

/-- Only the answer to a question makes a booking while questions are asked. -/
theorem isText_of_awaitsText {p : BookingProgress} (hp : c.booking = some p)
    (waits : p.step.awaitsText = true) {h₁ h₂ : List BookingExchange} {x : BookingExchange}
    (run : (call.work c).Runs (h₁ ++ x :: h₂) r) (changes : x.1.changes = true) : call.IsText := by
  have starts (start : call.IsStart) : call.IsText := by
    obtain ⟨-, p, hp, -⟩ := (start.acts c none).allowed run changes
    cases hp
  cases call with
  | book | check => exact starts trivial
  | text => trivial
  | reply v id =>
    change (v.takeReply id c).Runs _ _ at run
    rw [Visit.takeReply_apply, hp] at run
    split at run
    · rename_i s _ hs
      cases hs
      rw [v.takeSelection_of_awaitsText waits] at run
      simpa using run.1
    · simpa using run.1

/-- While questions are asked, the date was selected by one of the replies and not past then. -/
def Chosen (calls : List FlowCall) (c : Context) : Prop :=
  ∀ p date, c.booking = some p → p.step.awaitsText = true → p.date = some date →
    ∃ v id, FlowCall.reply v id ∈ calls ∧ v.today ≤ date

theorem Chosen.runs {calls : List FlowCall} (chosen : Chosen calls c)
    (run : (call.work c).Runs h r) : Chosen (calls ++ [call]) r.2 := by
  intro p' date hp' waits hdate
  have before {p : BookingProgress} (hp : c.booking = some p) (waits : p.step.awaitsText = true)
      (hd : p'.date = p.date) : ∃ v id, FlowCall.reply v id ∈ calls ++ [call] ∧ v.today ≤ date := by
    obtain ⟨v, id, hv, today⟩ := chosen p date hp waits (hd ▸ hdate)
    exact ⟨v, id, List.mem_append_left _ hv, today⟩
  have starts (start : call.IsStart) :
      ∃ v id, FlowCall.reply v id ∈ calls ++ [call] ∧ v.today ≤ date := by
    rcases ((start.acts c none).result run).awaits hp' waits with ⟨p, hp, -⟩ | ⟨p, _, hp, -⟩
    · cases hp
    · cases hp
  rcases ((call.acts_work c).result run).awaits hp' waits with
    ⟨p, hp, waits, hd⟩ | ⟨p, date', hp, hstep, hd, today⟩
  · exact before hp waits hd
  · -- The date is new, so the call was a reply: no other kind of call selects one.
    obtain rfl := Option.some.inj (hdate.symm.trans hd)
    cases call with
    | book | check => exact starts trivial
    | reply v id => exact ⟨v, id, by simp, today⟩
    | text v body =>
      change (v.takeText body >>= fun step => pure (step.elim .notForFlow .handled)
        : BookingWork ReplyHandling) c |>.Runs h r at run
      rw [Work.bind_apply, v.takeText_of_not_awaitsText hp (by rw [hstep]; rfl)] at run
      obtain ⟨-, rfl⟩ := run
      obtain rfl : p = p' := Option.some.inj (hp.symm.trans hp')
      rw [hstep] at waits
      cases waits

variable {σ : Type} (answer : (q : BookingQuery) → σ → Except BookingError q.Answer × σ)

theorem Chosen.runAll : ∀ (calls : List FlowCall) {before : List FlowCall} {s : Context × σ},
    Chosen before s.1 → Chosen (before ++ calls) (runAll answer calls s).1
  | [], before, s, chosen => by
    rw [List.append_nil]
    exact chosen
  | call :: calls, before, s, chosen => by
    have next := chosen.runs (Program.runs_history answer (call.work s.1) s.2)
    have all := Chosen.runAll calls (s := (_, (call.run answer s).2)) next
    rw [List.append_assoc] at all
    exact all

/-- Whatever the calls and the store, a booking is made or moved to a time ahead of the call, or to
one of the same day that has started, or it is made of the answer to a question and the date was
not past when a reply selected it. -/
theorem ahead_or_late (calls : List FlowCall) (call : FlowCall) (store : σ) {x : BookingExchange}
    (asked : x ∈ (call.work (FlowCall.runAll answer calls (.empty, store)).1).history answer
      (FlowCall.runAll answer calls (.empty, store)).2)
    {date : Date} {time : TimeOfDay} (booked : x.1.booked? = some (date, time)) :
    call.visit.IsAhead date time ∨ call.visit.today = date ∧ time ≤ call.visit.now
      ∨ call.IsText ∧ ∃ v id, FlowCall.reply v id ∈ calls ∧ v.today ≤ date := by
  generalize hs : FlowCall.runAll answer calls (.empty, store) = s at asked
  have chosen : Chosen calls s.1 := by
    have none_ : Chosen [] Context.empty := fun p date hp => nomatch hp
    rw [← hs]
    exact Chosen.runAll answer calls (s := (.empty, store)) none_
  have run := Program.runs_history answer (call.work s.1) s.2
  obtain ⟨h₁, h₂, hh⟩ := List.append_of_mem asked
  rw [hh] at run
  have changes := BookingQuery.changes_of_booked? booked
  obtain ⟨-, p, hp, grounds⟩ := (call.acts_work s.1).allowed run changes
  have picked (today : call.visit.today ≤ date) := (call.visit.isAhead_or_started today time)
  obtain ⟨q, a⟩ := x
  cases grounds with
  | answered waits hd hid hdate =>
    cases booked
    exact .inr (.inr ⟨isText_of_awaitsText hp waits run changes, chosen p _ hp waits hdate⟩)
  | picked picks =>
    cases booked
    rw [← or_assoc]
    exact .inl (picked (Visit.fits_iff.1 picks.fits).2.2)
  | cancelled => cases booked
  | moved hstep hid hslot fits =>
    cases booked
    rw [← or_assoc]
    exact .inl (picked (Visit.fits_iff.1 fits).2.2)

end FlowCall

/-! A list of times that is sent in the morning and replied to half an hour after its time. -/

namespace LateReply

open Practice

def visit (now : TimeOfDay) : Visit := ⟨account, "919800000001", monday, now, 1⟩

def tables : BookingTables :=
  BookingTables.empty.changeAll (staffed ++ [.addSlot account ⟨2⟩ .monday noon 1])

def answer (q : BookingQuery) (t : BookingTables) :
    Except BookingError q.Answer × BookingTables :=
  BookingTables.reply now q t

def morning : List FlowCall :=
  let v := visit (.ofSecond 32400)
  [.book v "book" { BookAppointment.standard with askName := false }, .reply v "booking_dept_1",
    .reply v "booking_staff_2"]

def late : FlowCall := .reply (visit (.ofSecond 45000)) "booking_slot_3_20260309"

def before : Context × BookingTables := FlowCall.runAll answer morning (.empty, tables)

end LateReply

open LateReply Practice in
theorem FlowCall.late_lateReply :
    (late.run answer before).2.bookings.map (fun b => (b.date, b.time)) = [(monday, noon)]
      ∧ ¬ late.visit.IsAhead monday noon
      ∧ ∃ x ∈ (late.work before.1).history answer before.2, x.1.booked? = some (monday, noon)
        ∧ (late.visit.IsAhead monday noon ∨ late.visit.today = monday ∧ noon ≤ late.visit.now
          ∨ late.IsText ∧ ∃ v id, FlowCall.reply v id ∈ morning ∧ v.today ≤ monday) := by
  have any : ((late.work before.1).history answer before.2).any
      (fun x => x.1.booked? == some (monday, noon)) = true := by decide +kernel
  obtain ⟨x, hx, hb⟩ := List.any_eq_true.1 any
  rw [beq_iff_eq] at hb
  refine ⟨by decide +kernel, ?_, x, hx, hb, ?_⟩
  · unfold Visit.IsAhead
    decide
  · exact FlowCall.ahead_or_late answer morning late tables hx hb

end Dialogue
