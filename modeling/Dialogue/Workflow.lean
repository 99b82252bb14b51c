import Dialogue.Calendar.Reader
import Dialogue.Graph.Basic
import Dialogue.Ident.Typed

/-!
# Workflows

A workflow is a graph that belongs to an account and listens to a webhook token. The node a day's
first message starts may be named; it need not exist. A workflow collection answers which active
workflows of an account listen to a token, and which have an entry node, in the order they came.
-/

namespace Dialogue

open FieldReader

namespace Instant

/-- Reads an instant. -/
def ofJson? : Json → Option Instant
  | .str s => Calendar.instant? s
  | _ => none

/-- Writes an instant. -/
def toJson (i : Instant) : Json := .str i.text

end Instant

namespace Date

/-- Reads a date. -/
def ofJson? : Json → Option Date
  | .str s => Calendar.date? s
  | _ => none

/-- Writes a date. -/
def toJson (d : Date) : Json := .str d.text

end Date

/-- A stored workflow. -/
structure Workflow where
  id : WorkflowId
  accountId : AccountId
  name : String
  isActive : Bool
  entryNodeId : Option NodeId
  webhookToken : String
  graph : Graph
  createdAt : Instant
  updatedAt : Instant
  deriving DecidableEq, Repr

namespace Workflow

def fields : FieldReader Workflow := do
  let id ← required ["id"] (Id.ofJson? .workflow)
  let accountId ← required ["account_id"] (Id.ofJson? .account)
  let name ← required ["name"] Json.str?
  let isActive ← required ["is_active"] Json.bool?
  let entryNodeId ← FieldReader.optional ["entry_node_id"] Json.str?
  let webhookToken ← required ["webhook_token"] Json.str?
  let graph ← required ["graph"] Graph.ofJson?
  let createdAt ← required ["created_at"] Instant.ofJson?
  let updatedAt ← required ["updated_at"] Instant.ofJson?
  return ⟨id, accountId, name, isActive, entryNodeId, webhookToken, graph, createdAt, updatedAt⟩

def ofJson? : Json → Option Workflow := Json.record? fields

def toJson (w : Workflow) : Json :=
  .object [("id", w.id.toJson), ("account_id", w.accountId.toJson), ("name", .str w.name),
    ("is_active", .bool w.isActive), ("entry_node_id", .ofOption .str w.entryNodeId),
    ("webhook_token", .str w.webhookToken), ("graph", w.graph.toJson),
    ("created_at", w.createdAt.toJson), ("updated_at", w.updatedAt.toJson)]

/-- An active workflow without nodes. -/
def new (id : WorkflowId) (accountId : AccountId) (name webhookToken : String) (now : Instant) :
    Workflow :=
  ⟨id, accountId, name, true, none, webhookToken, .empty, now, now⟩

/-- The entry node, if one is named and exists. -/
def entryNode? (w : Workflow) : Option Node := w.entryNodeId.bind w.graph.node?

/-- Switches the workflow on or off. -/
def setActive (w : Workflow) (active : Bool) (now : Instant) : Workflow :=
  { w with isActive := active, updatedAt := now }

end Workflow

/-- A failure of a workflow collection. -/
inductive WorkflowError where
  | notFound (id : WorkflowId)
  | storage (account : AccountId) (details : String)
  | invalidGraph (id : WorkflowId) (details : String)
  deriving DecidableEq, Repr

/-- The failure in words. -/
def WorkflowError.message : WorkflowError → String
  | .notFound id => "workflow not found: " ++ id.text
  | .storage account details =>
    "workflow storage failed for " ++ account.text ++ ": " ++ details
  | .invalidGraph id details => "invalid graph for workflow " ++ id.text ++ ": " ++ details

/-- Workflows in the order they came. -/
abbrev WorkflowList := List Workflow

namespace WorkflowList

/-- The active workflows of an account that listen to a token. -/
def byToken (l : WorkflowList) (account : AccountId) (token : String) : List Workflow :=
  l.filter fun w => w.accountId == account && w.isActive && w.webhookToken == token

/-- The active workflows of an account that name an entry node. -/
def withEntry (l : WorkflowList) (account : AccountId) : List Workflow :=
  l.filter fun w => w.accountId == account && w.isActive && w.entryNodeId.isSome

end WorkflowList

end Dialogue
