import Dialogue.Storage.Database

/-!
# Stored workflows

Workflows in a database: the active ones of an account that listen to a token, or that name an
entry node, in the order they were made. A graph with nodes that cannot be understood is still a
graph; only what is no graph at all makes the workflow unreadable.
-/

namespace Dialogue

open RowReader DatabaseWork

namespace Storage

/-- Reads the columns of a workflow. -/
def workflowRow : RowReader (Except DatabaseError Workflow) := do
  let id ← column "id" SqlValue.text?
  let account ← column "account_id" SqlValue.text?
  let name ← column "name" SqlValue.text?
  let isActive ← column "is_active" SqlValue.boolean?
  let entryNodeId ← column "entry_node_id" (SqlValue.nullable? SqlValue.text?)
  let webhookToken ← column "webhook_token" SqlValue.text?
  let graph ← column "graph_data" SqlValue.document?
  let createdAt ← column "created_at" SqlValue.timestamp?
  let updatedAt ← column "updated_at" SqlValue.timestamp?
  return do
    let workflowId ← readId .workflow "workflow id" id
    let accountId ← readAccount account
    match Graph.ofJson? graph with
    | some graph =>
      return ⟨workflowId, accountId, name, isActive, entryNodeId, webhookToken, graph, createdAt,
        updatedAt⟩
    | none => throw (.invalid "workflow graph" id "decode_error")

/-- The workflows that a statement finds for an account. -/
def workflows (account : AccountId) (s : Statement) : StoreWork WorkflowError (List Workflow) :=
  ExceptT.adapt (fun e => .storage account e.message) do
    let rows ← fetchAll s workflowRow
    settled (rows.mapM id)

/-- The active workflows of an account that listen to a token. -/
def workflowsByToken (account : AccountId) (token : String) :
    StoreWork WorkflowError (List Workflow) :=
  workflows account (.workflowsByToken account token)

/-- The active workflows of an account that name an entry node. -/
def workflowsWithEntry (account : AccountId) : StoreWork WorkflowError (List Workflow) :=
  workflows account (.workflowsWithEntry account)

/-- Stores a workflow in place of the one of its identifier. -/
def putWorkflow (w : Workflow) : DatabaseWork Unit := do
  let _ ← execute (.putWorkflow w)
  return ()

end Storage

end Dialogue
