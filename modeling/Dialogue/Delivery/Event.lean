import Dialogue.Conversation.Record
import Dialogue.Text.Blank

/-!
# Inbound events

A delivery holds messages as the provider wrote them. Each is read and classified: messages of our
own, without content, of groups and without a sender are ignored, and so is one that cannot be
read; a button or a row that was pressed is a reply; any other message with a body is a text. The
provider puts a namespace and a colon in front of a reply's identifier.
-/

namespace Dialogue

open FieldReader

/-- A pressed button or row. -/
structure PressedOption where
  id : String
  title : Option String
  deriving DecidableEq, Repr

/-- What a reply announces. -/
structure ReplyContent where
  kind : String
  button : Option PressedOption
  row : Option PressedOption
  deriving DecidableEq, Repr

/-- The single button of older messages. -/
structure OldButton where
  id : Option String
  title : Option String
  deriving DecidableEq, Repr

/-- A message as the provider writes it. -/
structure ProviderMessage where
  fromMe : Bool
  chatId : Option String
  sender : Option String
  timestamp : Option Int
  body : Option String
  reply : Option ReplyContent
  button : Option OldButton
  quotedId : Option String
  deriving DecidableEq, Repr

namespace ProviderMessage

/-- Reads unix seconds, a number or a text; what cannot be read is left out. -/
def seconds? : Json → Option (Option Int)
  | .int n => some (if Text.Range.signed64.has n then some n else none)
  | .str s => some (Text.readInteger? .signed64 (Text.trim s))
  | _ => some none

/-- Reads the text part. -/
def text? : Json → Option String := Json.record? (withDefault ["body"] "" Json.str?)

/-- Reads a pressed button or row. -/
def pressed? : Json → Option PressedOption := Json.record? do
  let id ← withDefault ["id"] "" Json.str?
  let title ← FieldReader.optional ["title"] Json.str?
  return ⟨id, title⟩

/-- Reads the reply part. -/
def reply? : Json → Option ReplyContent := Json.record? do
  let kind ← withDefault ["type"] "" Json.str?
  let button ← FieldReader.optional ["buttons_reply"] pressed?
  let row ← FieldReader.optional ["list_reply"] pressed?
  return ⟨kind, button, row⟩

/-- Reads the button part. -/
def button? : Json → Option OldButton := Json.record? do
  let id ← FieldReader.optional ["id", "payload"] Json.str?
  let title ← FieldReader.optional ["text"] Json.str?
  return ⟨id, title⟩

/-- Reads the part that tells of the quoted message. -/
def quoted? : Json → Option (Option String) :=
  Json.record? (FieldReader.optional ["quoted_id"] Json.str?)

def fields : FieldReader ProviderMessage := do
  let _id ← FieldReader.optional ["id"] Json.str?
  let fromMe ← withDefault ["from_me"] false Json.bool?
  let _kind ← FieldReader.optional ["type"] Json.str?
  let chatId ← FieldReader.optional ["chat_id"] Json.str?
  let sender ← FieldReader.optional ["from"] Json.str?
  let _name ← FieldReader.optional ["from_name"] Json.str?
  let timestamp ← withDefault ["timestamp"] none seconds?
  let body ← FieldReader.optional ["text"] text?
  let reply ← FieldReader.optional ["reply"] reply?
  let button ← FieldReader.optional ["button"] button?
  let quoted ← FieldReader.optional ["context"] quoted?
  return ⟨fromMe, chatId, sender, timestamp, body, reply, button, quoted.join⟩

def ofJson? : Json → Option ProviderMessage := Json.record? fields

end ProviderMessage

/-- Why an event is ignored. -/
inductive IgnoreReason where
  | ownMessage
  | noContent
  | groupChat
  | noSender
  | malformed
  deriving DecidableEq, Repr

/-- The name of a reason. -/
def IgnoreReason.name : IgnoreReason → String
  | .ownMessage => "own_message"
  | .noContent => "no_content"
  | .groupChat => "group_chat"
  | .noSender => "no_sender"
  | .malformed => "malformed"

/-- A text of a participant. -/
structure TextEvent where
  phone : String
  body : String
  timestamp : Instant
  deriving DecidableEq, Repr

/-- A button or row that a participant pressed. -/
structure ReplyEvent where
  phone : String
  kind : MessageKind
  rawId : String
  replyId : String
  title : Option String
  quotedId : Option String
  timestamp : Instant
  deriving DecidableEq, Repr

/-- A classified event. -/
inductive InboundEvent where
  | ignorable (reason : IgnoreReason)
  | text (event : TextEvent)
  | reply (event : ReplyEvent)
  deriving DecidableEq, Repr

/-- A reply's identifier without the provider's namespace: what follows the last colon. -/
def logicalReplyId (rawId : String) : String :=
  String.ofList (rawId.toList.reverse.takeWhile (· != ':')).reverse

namespace ProviderMessage

/-- The body without blanks around it, if anything is left. -/
def content? (m : ProviderMessage) : Option String :=
  (m.body.map Text.trim).filter fun b => !b.isEmpty

/-- The option that a reply's announced kind stands for. -/
def announced (r : ReplyContent) : MessageKind × Option PressedOption :=
  if r.kind = "buttons_reply" then (.buttonReply, r.button)
  else if r.kind = "list_reply" then (.listReply, r.row)
  else (.buttonReply, none)

/-- The option pressed in the reply part. -/
def replyOption? (m : ProviderMessage) : Option (MessageKind × PressedOption) := do
  let reply ← m.reply
  let pressed ← (announced reply).2
  if pressed.id.isEmpty then none else some ((announced reply).1, pressed)

/-- The option pressed in the button part. -/
def buttonOption? (m : ProviderMessage) : Option (MessageKind × PressedOption) := do
  let button ← m.button
  let id ← button.id
  if id.isEmpty then none else some (.buttonReply, ⟨id, button.title⟩)

/-- The option that was pressed. -/
def option? (m : ProviderMessage) : Option (MessageKind × PressedOption) :=
  m.replyOption?.or m.buttonOption?

/-- The chat that the message belongs to. -/
def chat (m : ProviderMessage) : List Char := ((m.chatId.or m.sender).getD "").toList

/-- The end of a group's chat. -/
def groupMark : List Char := "@g.us".toList

/-- The phone of a chat: the digits in front of the first `@`. -/
def participant (chat : List Char) : String :=
  String.ofList ((chat.takeWhile (· != '@')).filter Char.isDigit)

/-- When the message was sent, or when it was received. -/
def instant (m : ProviderMessage) (receivedAt : Instant) : Instant :=
  (m.timestamp.bind Instant.ofSeconds?).getD receivedAt

/-- The event of a message from a participant. -/
def eventOf (m : ProviderMessage) (phone : String) (timestamp : Instant) : InboundEvent :=
  match m.option?, m.content? with
  | some (kind, pressed), _ => .reply ⟨phone, kind, pressed.id, logicalReplyId pressed.id,
      pressed.title, m.quotedId, timestamp⟩
  | none, some body => .text ⟨phone, body, timestamp⟩
  | none, none => .ignorable .noContent

/-- Classifies a message. -/
def classify (m : ProviderMessage) (receivedAt : Instant) : InboundEvent :=
  if m.fromMe then .ignorable .ownMessage
  else if m.content?.isNone && m.option?.isNone then .ignorable .noContent
  else if groupMark.isSuffixOf m.chat then .ignorable .groupChat
  else if (participant m.chat).isEmpty then .ignorable .noSender
  else m.eventOf (participant m.chat) (m.instant receivedAt)

end ProviderMessage

namespace InboundEvent

/-- Reads and classifies a message. -/
def ofJson (raw : Json) (receivedAt : Instant) : InboundEvent :=
  match ProviderMessage.ofJson? raw with
  | some m => m.classify receivedAt
  | none => .ignorable .malformed

def toJson : InboundEvent → Json
  | .ignorable reason =>
    .object [("kind", .str "ignorable"), ("phone", .null), ("reason", .str reason.name)]
  | .text e =>
    .object [("kind", .str "text"), ("phone", .str e.phone), ("body", .str e.body),
      ("timestamp", .int e.timestamp.second)]
  | .reply e =>
    .object [("kind", .str e.kind.name), ("phone", .str e.phone), ("raw_id", .str e.rawId),
      ("reply_id", .str e.replyId), ("title", .ofOption .str e.title),
      ("quoted_id", .ofOption .str e.quotedId), ("timestamp", .int e.timestamp.second)]

/-- The phone of a participant. -/
def phone? : InboundEvent → Option String
  | .ignorable _ => none
  | .text event => some event.phone
  | .reply event => some event.phone

/-- The messages of a delivery; one that cannot be read has none. -/
def messages (payload : Json) : List Json :=
  (payload.record? (withDefault ["messages"] [] Json.arr?)).getD []

end InboundEvent

end Dialogue
