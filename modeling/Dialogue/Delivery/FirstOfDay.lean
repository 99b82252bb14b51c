import Dialogue.Service.Request
import Dialogue.Chain.Basic

/-!
# The first message of a day

A participant's first text of a local day starts the entry nodes of the account's workflows. The
day is claimed by the text, so of several texts exactly one is the first; later ones are inquiries.
-/

namespace Dialogue

/-- What a text means for its day. -/
inductive DayDecision where
  | first (workflows : List Workflow)
  | inquiry
  deriving Repr

namespace DayDecision

/-- Claims a day and, if that succeeds, finds the workflows to start. -/
def decide (account : AccountId) (phone : String) (date : Date) :
    Service (Except ChainError DayDecision) := do
  match ← Service.ask (.claimDay ⟨account, phone, date⟩) with
  | .error e => pure (.error (.lookup (Text.report e.message)))
  | .ok false => pure (.ok .inquiry)
  | .ok true =>
    match ← Service.ask (.workflowsWithEntry account) with
    | .error e => pure (.error (.lookup (Text.report e.message)))
    | .ok workflows => pure (.ok (.first workflows))

end DayDecision

end Dialogue
