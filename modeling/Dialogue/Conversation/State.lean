import Dialogue.Conversation.Context

/-!
# Conversations

There is one conversation for each workflow and phone. It remembers the node it last reached, its
context, and when its participant last wrote.
-/

namespace Dialogue

open FieldReader

/-- What a conversation is known by. -/
structure ConversationKey where
  workflowId : WorkflowId
  phone : String
  deriving DecidableEq, Repr

/-- A conversation. -/
structure Conversation where
  workflowId : WorkflowId
  phone : String
  currentNodeId : Option NodeId
  context : Context
  lastMessageAt : Option Instant
  lastMessageDate : Option Date
  createdAt : Instant
  updatedAt : Instant
  deriving DecidableEq, Repr

namespace Conversation

/-- A conversation that has not begun. -/
def new (workflowId : WorkflowId) (phone : String) (now : Instant) : Conversation :=
  ⟨workflowId, phone, none, .empty, none, none, now, now⟩

/-- What the conversation is known by. -/
def key (c : Conversation) : ConversationKey := ⟨c.workflowId, c.phone⟩

/-- Moves to a node. -/
def advanceTo (c : Conversation) (nodeId : NodeId) (now : Instant) : Conversation :=
  { c with currentNodeId := some nodeId, updatedAt := now }

/-- Notes a message of the participant. -/
def recordInbound (c : Conversation) (at_ : Instant) (localDate : Date) (now : Instant) :
    Conversation :=
  { c with lastMessageAt := some at_, lastMessageDate := some localDate, updatedAt := now }

/-- Ends the booking and the questions in progress. -/
def clearProgress (c : Conversation) : Conversation :=
  { c with context := c.context.clearProgress }

def fields : FieldReader Conversation := do
  let workflowId ← required ["workflow_id"] (Id.ofJson? .workflow)
  let phone ← required ["phone"] Json.str?
  let currentNodeId ← FieldReader.optional ["current_node_id"] Json.str?
  let context ← required ["context"] Context.ofJson?
  let lastMessageAt ← FieldReader.optional ["last_message_at"] Instant.ofJson?
  let lastMessageDate ← FieldReader.optional ["last_message_date"] Date.ofJson?
  let createdAt ← required ["created_at"] Instant.ofJson?
  let updatedAt ← required ["updated_at"] Instant.ofJson?
  return ⟨workflowId, phone, currentNodeId, context, lastMessageAt, lastMessageDate, createdAt,
    updatedAt⟩

def ofJson? : Json → Option Conversation := Json.record? fields

def toJson (c : Conversation) : Json :=
  .object [("workflow_id", c.workflowId.toJson), ("phone", .str c.phone),
    ("current_node_id", .ofOption .str c.currentNodeId), ("context", c.context.toJson),
    ("last_message_at", .ofOption Instant.toJson c.lastMessageAt),
    ("last_message_date", .ofOption Date.toJson c.lastMessageDate),
    ("created_at", c.createdAt.toJson), ("updated_at", c.updatedAt.toJson)]

end Conversation

/-- A failure to load or save a conversation. -/
inductive ConversationError where
  | storage (reason : String)
  | invalid (reason : String)
  deriving DecidableEq, Repr

/-- The failure in words. -/
def ConversationError.message : ConversationError → String
  | .storage reason => "conversation state storage failed: " ++ reason
  | .invalid reason => "invalid conversation state: " ++ reason

/-- Conversations, each at most once. -/
abbrev ConversationTable := List Conversation

namespace ConversationTable

/-- The conversation of a key. -/
def find? (t : ConversationTable) (key : ConversationKey) : Option Conversation :=
  List.find? (fun c => c.key == key) t

/-- Puts a conversation in, in place of the one of its key. -/
def save (t : ConversationTable) (c : Conversation) : ConversationTable :=
  match t with
  | [] => [c]
  | d :: r => if d.key = c.key then c :: r else d :: save r c

theorem find?_save_self (t : ConversationTable) (c : Conversation) :
    (t.save c).find? c.key = some c := by
  induction t with
  | nil => simp [save, find?]
  | cons d r ih =>
    by_cases h : d.key = c.key
    · simp [save, find?, h]
    · simpa [save, find?, h] using ih

theorem find?_save_of_ne (t : ConversationTable) {c : Conversation} {key : ConversationKey}
    (h : key ≠ c.key) : (t.save c).find? key = t.find? key := by
  induction t with
  | nil => simp [save, find?, Ne.symm h]
  | cons d r ih =>
    by_cases hd : d.key = c.key
    · simp [save, find?, hd, Ne.symm h]
    · by_cases hk : d.key = key
      · subst hk
        simp [save, find?, hd]
      · simpa [save, find?, hd, hk] using ih

end ConversationTable

end Dialogue
