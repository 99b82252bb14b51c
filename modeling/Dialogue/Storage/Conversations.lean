import Dialogue.Storage.Database

/-!
# Stored conversations and their records

Conversations, sent messages, claims of days and execution logs in a database. A day is claimed by
adding its row, so of several claims at once only one succeeds.
-/

namespace Dialogue

open RowReader DatabaseWork

namespace Storage

/-- Reads the columns of a conversation. -/
def conversationRow : RowReader (Except DatabaseError Conversation) := do
  let workflow ← column "workflow_id" SqlValue.text?
  let phone ← column "phone" SqlValue.text?
  let currentNodeId ← column "current_node_id" (SqlValue.nullable? SqlValue.text?)
  let context ← column "context" SqlValue.document?
  let lastMessageAt ← column "last_message_at" (SqlValue.nullable? SqlValue.timestamp?)
  let lastMessageDate ← column "last_message_date" (SqlValue.nullable? SqlValue.date?)
  let createdAt ← column "created_at" SqlValue.timestamp?
  let updatedAt ← column "updated_at" SqlValue.timestamp?
  return do
    let workflowId ← readId .workflow "workflow id" workflow
    match Context.ofJson? context with
    | some context =>
      return ⟨workflowId, phone, currentNodeId, context, lastMessageAt, lastMessageDate, createdAt,
        updatedAt⟩
    | none => throw (.invalid "conversation context" phone "decode_error")

/-- The conversation of a key. -/
def loadConversation (key : ConversationKey) :
    StoreWork ConversationError (Option Conversation) := do
  let row ← ExceptT.adapt (fun e => .storage e.message)
    (fetchOptional (.conversation key) conversationRow)
  ExceptT.adapt (fun e => .invalid e.message) (settled (row.mapM id))

/-- Stores a conversation in place of the one of its key. -/
def saveConversation (c : Conversation) : StoreWork ConversationError Unit := do
  let _ ← ExceptT.adapt (fun e => .storage e.message) (execute (.putConversation c))
  return ()

/-- Reads the columns of a sent message. -/
def messageRow : RowReader (Except DatabaseError SentMessage) := do
  let workflow ← column "workflow_id" SqlValue.text?
  let messageId ← column "provider_message_id" SqlValue.text?
  let phone ← column "phone" SqlValue.text?
  let nodeKind ← column "message_kind" SqlValue.text?
  let sentAt ← column "sent_at" SqlValue.timestamp?
  return do
    let workflowId ← readId .workflow "workflow id" workflow
    return ⟨workflowId, messageId, phone, nodeKind, sentAt⟩

/-- Work on a table of records, whose failures name the table. -/
def onRecords (store : RecordStore) (work : DatabaseWork α) : StoreWork RecordError α :=
  ExceptT.adapt (fun e => .storage store e.message) work

/-- Records a sent message, unless its identifier is known. -/
def recordMessage (m : SentMessage) : StoreWork RecordError Unit := do
  let _ ← onRecords .sentMessageTable (execute (.recordMessage m))
  return ()

/-- The record of a message identifier. -/
def findMessage (messageId : String) : StoreWork RecordError (Option SentMessage) := do
  let row ← onRecords .sentMessageTable (fetchOptional (.findMessage messageId) messageRow)
  ExceptT.adapt (fun e => .invalid .sentMessageTable e.message) (settled (row.mapM id))

/-- Claims a day; tells whether it was unclaimed. -/
def claimDay (c : DayClaim) : StoreWork RecordError Bool := do
  let r ← onRecords .dailyClaimTable (execute (.claimDay c))
  return r.affected == 1

/-- Appends an entry to the execution log. -/
def appendLog (e : LogEntry) : StoreWork RecordError Unit := do
  let _ ← onRecords .executionLogTable (execute (.appendLog e))
  return ()

end Storage

end Dialogue
