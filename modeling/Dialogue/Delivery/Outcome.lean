/-!
# Outcomes of deliveries

What came of a delivery, and how the outcomes of its events are merged: the one of higher rank
counts, and of two of one rank the earlier.
-/

namespace Dialogue

/-- What came of a delivery or an event. -/
inductive DeliveryOutcome where
  | ok
  | captured
  | inquiry
  | notHandled
  | ignored
  deriving DecidableEq, Repr

namespace DeliveryOutcome

/-- The outcomes. -/
def all : List DeliveryOutcome := [.ok, .captured, .inquiry, .notHandled, .ignored]

/-- The word that a delivery is acknowledged with. -/
def name : DeliveryOutcome → String
  | .ok => "ok"
  | .captured => "captured"
  | .inquiry => "inquiry"
  | .notHandled => "not_handled"
  | .ignored => "ignored"

/-- Reads a word. -/
def ofName? (s : String) : Option DeliveryOutcome := all.find? fun o => o.name == s

/-- How much an outcome counts. -/
def rank : DeliveryOutcome → Nat
  | .ok | .captured => 4
  | .inquiry => 3
  | .notHandled => 2
  | .ignored => 1

/-- The outcome of two events, one after the other. -/
def merge (a b : DeliveryOutcome) : DeliveryOutcome := if a.rank < b.rank then b else a

end DeliveryOutcome

/-- Why a delivery is refused. The last cause is an event whose local time the calendar lacks. -/
inductive DeliveryError where
  | unauthorized
  | persistence (details : String)
  | outOfCalendar
  deriving DecidableEq, Repr

/-- The cause in words. -/
def DeliveryError.message : DeliveryError → String
  | .unauthorized => "unknown webhook token"
  | .persistence details => "persistence failure: " ++ details
  | .outOfCalendar => "local time out of the calendar"

end Dialogue
