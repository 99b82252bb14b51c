import Dialogue.Json.Record

/-!
# What booking nodes ask and answer

The texts and switches of the two booking nodes: one books an appointment, the other shows those
a participant has. A text that is left out has a standard wording.
-/

namespace Dialogue

open FieldReader

/-- The settings of a node that books an appointment. -/
structure BookAppointment where
  departmentPrompt : String
  staffPrompt : String
  slotPrompt : String
  askName : Bool
  namePrompt : String
  customQuestion1 : Option String
  customQuestion2 : Option String
  confirmationMessage : String
  noSlotsMessage : String
  unavailableMessage : String
  daysAhead : Option UInt32
  deriving DecidableEq, Repr

namespace BookAppointment

/-- The standard settings. -/
def standard : BookAppointment where
  departmentPrompt := "Please choose a department."
  staffPrompt := "Who would you like to book with?"
  slotPrompt := "Please pick a time."
  askName := true
  namePrompt := "What name should we put the booking under?"
  customQuestion1 := none
  customQuestion2 := none
  confirmationMessage := "Your appointment with \x7b\x7bbooking.staff\x7d\x7d on " ++
    "\x7b\x7bbooking.date\x7d\x7d at \x7b\x7bbooking.time\x7d\x7d is confirmed."
  noSlotsMessage := "Sorry, there are no available times right now."
  unavailableMessage := "Sorry, that time is no longer available. Please start again."
  daysAhead := none

def fields : FieldReader BookAppointment := do
  let departmentPrompt ← withDefault ["departmentPrompt"] standard.departmentPrompt Json.str?
  let staffPrompt ← withDefault ["staffPrompt"] standard.staffPrompt Json.str?
  let slotPrompt ← withDefault ["slotPrompt"] standard.slotPrompt Json.str?
  let askName ← withDefault ["askName"] standard.askName Json.bool?
  let namePrompt ← withDefault ["namePrompt"] standard.namePrompt Json.str?
  let customQuestion1 ← FieldReader.optional ["customQuestion1"] Json.str?
  let customQuestion2 ← FieldReader.optional ["customQuestion2"] Json.str?
  let confirmationMessage ←
    withDefault ["confirmationMessage"] standard.confirmationMessage Json.str?
  let noSlotsMessage ← withDefault ["noSlotsMessage"] standard.noSlotsMessage Json.str?
  let unavailableMessage ← withDefault ["unavailableMessage"] standard.unavailableMessage Json.str?
  let daysAhead ← FieldReader.optional ["daysAhead"] Json.uint32?
  return ⟨departmentPrompt, staffPrompt, slotPrompt, askName, namePrompt, customQuestion1,
    customQuestion2, confirmationMessage, noSlotsMessage, unavailableMessage, daysAhead⟩

def ofJson? : Json → Option BookAppointment := Json.record? fields

def toJson (c : BookAppointment) : Json :=
  .object ([("departmentPrompt", .str c.departmentPrompt), ("staffPrompt", .str c.staffPrompt),
    ("slotPrompt", .str c.slotPrompt), ("askName", .bool c.askName),
    ("namePrompt", .str c.namePrompt)] ++
    Json.member? "customQuestion1" .str c.customQuestion1 ++
    Json.member? "customQuestion2" .str c.customQuestion2 ++
    [("confirmationMessage", .str c.confirmationMessage),
      ("noSlotsMessage", .str c.noSlotsMessage),
      ("unavailableMessage", .str c.unavailableMessage)] ++
    Json.member? "daysAhead" Json.ofUInt32 c.daysAhead)

end BookAppointment

/-- The settings of a node that shows a participant's appointments. -/
structure CheckBookings where
  prompt : String
  noBookingsMessage : String
  allowCancel : Bool
  allowReschedule : Bool
  slotPrompt : String
  cancelledMessage : String
  rescheduledMessage : String
  unavailableMessage : String
  daysAhead : Option UInt32
  deriving DecidableEq, Repr

namespace CheckBookings

/-- The standard settings. -/
def standard : CheckBookings where
  prompt := "Here are your upcoming appointments."
  noBookingsMessage := "You have no upcoming appointments."
  allowCancel := true
  allowReschedule := true
  slotPrompt := BookAppointment.standard.slotPrompt
  cancelledMessage := "Your appointment has been cancelled."
  rescheduledMessage := "Your appointment has been moved to \x7b\x7bbooking.date\x7d\x7d at " ++
    "\x7b\x7bbooking.time\x7d\x7d."
  unavailableMessage := BookAppointment.standard.unavailableMessage
  daysAhead := none

def fields : FieldReader CheckBookings := do
  let prompt ← withDefault ["prompt"] standard.prompt Json.str?
  let noBookingsMessage ← withDefault ["noBookingsMessage"] standard.noBookingsMessage Json.str?
  let allowCancel ← withDefault ["allowCancel"] standard.allowCancel Json.bool?
  let allowReschedule ← withDefault ["allowReschedule"] standard.allowReschedule Json.bool?
  let slotPrompt ← withDefault ["slotPrompt"] standard.slotPrompt Json.str?
  let cancelledMessage ← withDefault ["cancelledMessage"] standard.cancelledMessage Json.str?
  let rescheduledMessage ← withDefault ["rescheduledMessage"] standard.rescheduledMessage Json.str?
  let unavailableMessage ← withDefault ["unavailableMessage"] standard.unavailableMessage Json.str?
  let daysAhead ← FieldReader.optional ["daysAhead"] Json.uint32?
  return ⟨prompt, noBookingsMessage, allowCancel, allowReschedule, slotPrompt, cancelledMessage,
    rescheduledMessage, unavailableMessage, daysAhead⟩

def ofJson? : Json → Option CheckBookings := Json.record? fields

def toJson (c : CheckBookings) : Json :=
  .object ([("prompt", .str c.prompt), ("noBookingsMessage", .str c.noBookingsMessage),
    ("allowCancel", .bool c.allowCancel), ("allowReschedule", .bool c.allowReschedule),
    ("slotPrompt", .str c.slotPrompt), ("cancelledMessage", .str c.cancelledMessage),
    ("rescheduledMessage", .str c.rescheduledMessage),
    ("unavailableMessage", .str c.unavailableMessage)] ++
    Json.member? "daysAhead" Json.ofUInt32 c.daysAhead)

end CheckBookings

end Dialogue
