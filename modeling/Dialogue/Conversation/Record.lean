import Dialogue.Conversation.State

/-!
# Records of conversations

Interactive messages that were sent are recorded under the provider's message identifier, so a
reply that quotes one tells which workflow sent it. Every handled event appends one entry to the
execution log. The first message of a day is claimed once for each account, phone and date.
-/

namespace Dialogue

open FieldReader

/-- An interactive message that a workflow sent. -/
structure SentMessage where
  workflowId : WorkflowId
  messageId : String
  phone : String
  nodeKind : String
  sentAt : Instant
  deriving DecidableEq, Repr

namespace SentMessage

def fields : FieldReader SentMessage := do
  let workflowId ← required ["workflow_id"] (Id.ofJson? .workflow)
  let messageId ← required ["provider_message_id"] Json.str?
  let phone ← required ["phone"] Json.str?
  let nodeKind ← required ["message_kind"] Json.str?
  let sentAt ← required ["sent_at"] Instant.ofJson?
  return ⟨workflowId, messageId, phone, nodeKind, sentAt⟩

def ofJson? : Json → Option SentMessage := Json.record? fields

def toJson (m : SentMessage) : Json :=
  .object [("workflow_id", m.workflowId.toJson), ("provider_message_id", .str m.messageId),
    ("phone", .str m.phone), ("message_kind", .str m.nodeKind), ("sent_at", m.sentAt.toJson)]

end SentMessage

/-- Sent messages, each identifier at most once. -/
abbrev SentMessageTable := List SentMessage

namespace SentMessageTable

/-- The record of a message identifier. -/
def find? (t : SentMessageTable) (messageId : String) : Option SentMessage :=
  List.find? (fun m => m.messageId == messageId) t

/-- Puts a record in, in place of the one of its identifier. -/
def record (t : SentMessageTable) (m : SentMessage) : SentMessageTable :=
  match t with
  | [] => [m]
  | n :: r => if n.messageId = m.messageId then m :: r else n :: record r m

end SentMessageTable

/-- What a participant sent. -/
inductive MessageKind where
  | text
  | buttonReply
  | listReply
  deriving DecidableEq, Repr

namespace MessageKind

/-- The kinds and their names. -/
def table : List (String × MessageKind) :=
  [("text", .text), ("button_reply", .buttonReply), ("list_reply", .listReply)]

/-- The stored name. -/
def name : MessageKind → String
  | .text => "text"
  | .buttonReply => "button_reply"
  | .listReply => "list_reply"

/-- Reads a stored name. -/
def ofName? (s : String) : Option MessageKind := table.lookup s

def ofJson? : Json → Option MessageKind := Json.choice? table

end MessageKind

/-- What came of an event. -/
inductive ExecutionStatus where
  | success
  | failed
  deriving DecidableEq, Repr

namespace ExecutionStatus

/-- The statuses and their names. -/
def table : List (String × ExecutionStatus) := [("success", .success), ("failed", .failed)]

/-- The stored name. -/
def name : ExecutionStatus → String
  | .success => "success"
  | .failed => "failed"

/-- Reads a stored name. -/
def ofName? (s : String) : Option ExecutionStatus := table.lookup s

def ofJson? : Json → Option ExecutionStatus := Json.choice? table

end ExecutionStatus

/-- A message that a chain sent. -/
structure SentResponse where
  nodeId : NodeId
  nodeKind : String
  messageId : Option String
  deriving DecidableEq, Repr

namespace SentResponse

def fields : FieldReader SentResponse := do
  let nodeId ← required ["node_id"] Json.str?
  let nodeKind ← required ["kind"] Json.str?
  let messageId ← FieldReader.optional ["provider_message_id"] Json.str?
  return ⟨nodeId, nodeKind, messageId⟩

def ofJson? : Json → Option SentResponse := Json.record? fields

def toJson (r : SentResponse) : Json :=
  .object ([("node_id", .str r.nodeId), ("kind", .str r.nodeKind)] ++
    Json.member? "provider_message_id" .str r.messageId)

end SentResponse

/-- An entry of the execution log. -/
structure LogEntry where
  id : ExecutionLogId
  workflowId : WorkflowId
  phone : String
  messageKind : MessageKind
  trigger : Json
  responses : List SentResponse
  status : ExecutionStatus
  error : Option String
  createdAt : Instant
  deriving DecidableEq, Repr

namespace LogEntry

/-- The entry of an event that went well unless there is an error. -/
def new (id : ExecutionLogId) (workflowId : WorkflowId) (phone : String) (kind : MessageKind)
    (trigger : Json) (responses : List SentResponse) (error : Option String) (now : Instant) :
    LogEntry :=
  ⟨id, workflowId, phone, kind, trigger, responses,
    if error.isSome then .failed else .success, error, now⟩

def fields : FieldReader LogEntry := do
  let id ← required ["id"] (Id.ofJson? .executionLog)
  let workflowId ← required ["workflow_id"] (Id.ofJson? .workflow)
  let phone ← required ["phone"] Json.str?
  let messageKind ← required ["message_kind"] MessageKind.ofJson?
  let trigger ← required ["trigger"] some
  let responses ← required ["responses"] (Json.list? SentResponse.ofJson?)
  let status ← required ["status"] ExecutionStatus.ofJson?
  let error ← FieldReader.optional ["error"] Json.str?
  let createdAt ← required ["created_at"] Instant.ofJson?
  return ⟨id, workflowId, phone, messageKind, trigger, responses, status, error, createdAt⟩

def ofJson? : Json → Option LogEntry := Json.record? fields

def toJson (e : LogEntry) : Json :=
  .object [("id", e.id.toJson), ("workflow_id", e.workflowId.toJson), ("phone", .str e.phone),
    ("message_kind", .str e.messageKind.name), ("trigger", e.trigger),
    ("responses", .arr (e.responses.map SentResponse.toJson)), ("status", .str e.status.name),
    ("error", .ofOption .str e.error), ("created_at", e.createdAt.toJson)]

end LogEntry

/-- The first message of a phone on a date. -/
structure DayClaim where
  accountId : AccountId
  phone : String
  date : Date
  deriving DecidableEq, Repr

/-- The stores of records, and the tables that hold them in a database. -/
inductive RecordStore where
  | sentMessage
  | executionLog
  | dailyClaim
  | sentMessageTable
  | executionLogTable
  | dailyClaimTable
  deriving DecidableEq, Repr

/-- The name of a store in errors. -/
def RecordStore.name : RecordStore → String
  | .sentMessage => "sent message"
  | .executionLog => "execution log"
  | .dailyClaim => "daily claim"
  | .sentMessageTable => "sent_messages"
  | .executionLogTable => "workflow_execution_logs"
  | .dailyClaimTable => "daily_first_messages"

/-- A failure to keep or find a record. -/
inductive RecordError where
  | storage (store : RecordStore) (reason : String)
  | invalid (store : RecordStore) (reason : String)
  deriving DecidableEq, Repr

/-- The failure in words. -/
def RecordError.message : RecordError → String
  | .storage store reason => store.name ++ " storage failed: " ++ reason
  | .invalid store reason => "invalid " ++ store.name ++ " record: " ++ reason

end Dialogue
