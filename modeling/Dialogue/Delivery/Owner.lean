import Dialogue.Service.Request
import Dialogue.Chain.Basic

/-!
# Who owns a reply

Several workflows can listen to one token. A reply quotes the message it answers; if that message
was recorded, only the workflow that sent it may take the reply.
-/

namespace Dialogue

/-- Who may take a reply. -/
inductive Ownership where
  | mine
  | notMine (owner : WorkflowId)
  | untracked
  deriving DecidableEq, Repr

namespace Ownership

/-- Ownership by the record of the quoted message. -/
def of (record : Option SentMessage) (workflow : WorkflowId) : Ownership :=
  match record with
  | some m => if m.workflowId = workflow then .mine else .notMine m.workflowId
  | none => .untracked

/-- Whether the workflow may take the reply. -/
def mayHandle : Ownership → Bool
  | .notMine _ => false
  | _ => true

def toJson : Ownership → Json
  | .mine => .str "mine"
  | .notMine owner => .object [("not_mine", owner.toJson)]
  | .untracked => .str "untracked"

/-- Finds the record of a quoted message. -/
def find (quotedId : Option String) : Service (Except ChainError (Option SentMessage)) :=
  match quotedId.filter fun id => !id.isEmpty with
  | none => pure (.ok none)
  | some id => do
    match ← Service.ask (.findMessage id) with
    | .ok record => pure (.ok record)
    | .error e => pure (.error (.lookup (Text.report e.message)))

end Ownership

end Dialogue
