import Dialogue.Graph.Message
import Dialogue.Graph.HttpCall
import Dialogue.Graph.Appointment

/-!
# Nodes

A node has an identifier and a kind. It is read from an identifier, a type tag and data; data that
does not fit its tag makes an unsupported node and never an unreadable document. An unsupported
node keeps its tag and loses its data when it is written.
-/

namespace Dialogue

/-- The identifier of a node within its graph. -/
abbrev NodeId := String

/-- Why a node cannot be executed. -/
inductive UnsupportedReason where
  | unknownType
  | missingMediaUrl
  | undecodable
  deriving DecidableEq, Repr

/-- The reason in words. -/
def UnsupportedReason.message : UnsupportedReason → String
  | .unknownType => "unknown node type"
  | .missingMediaUrl => "missing media url"
  | .undecodable => "decode_error"

/-- What a node does. -/
inductive NodeKind where
  | text (content : TextContent)
  | media (content : MediaContent)
  | location (content : LocationContent)
  | quickReply (content : QuickReply)
  | list (content : ListMessage)
  | buttons (content : ButtonsMessage)
  | carousel (content : Carousel)
  | httpCall (call : HttpCall)
  | bookAppointment (settings : BookAppointment)
  | checkBookings (settings : CheckBookings)
  | unsupported (tag : String) (reason : UnsupportedReason)
  deriving DecidableEq, Repr

/-- The families of kinds. -/
inductive NodeCategory where
  | message
  | interactive
  | action
  | booking
  | unsupported
  deriving DecidableEq, Repr

/-- The name of a family. -/
def NodeCategory.name : NodeCategory → String
  | .message => "message"
  | .interactive => "interactive"
  | .action => "action"
  | .booking => "booking"
  | .unsupported => "unsupported"

namespace NodeKind

/-- The kind of data that was read, or an unsupported one under the tag. -/
def ofContent (tag : String) : Option NodeKind → NodeKind
  | some kind => kind
  | none => .unsupported tag .undecodable

/-- A quick reply with media: its header is of the given type, and its address may stand beside
the message instead of in a header. -/
def ofMediaReply (tag : String) (mediaType : MediaType) (mediaUrl : Option String) :
    Option QuickReply → NodeKind
  | none => .unsupported tag .undecodable
  | some content =>
    match content.media, mediaUrl with
    | some header, _ => .quickReply { content with media := some { header with mediaType } }
    | none, some url => .quickReply { content with media := some ⟨mediaType, url⟩ }
    | none, none => .unsupported tag .missingMediaUrl

/-- The data of a node; null stands for no settings. -/
def settings (data : Json) : Json := if data.isNull then .obj [] else data

/-- Reads a kind from its type tag and data. -/
def ofParts (tag : String) (data : Json) : NodeKind :=
  let d := settings data
  let mediaUrl := (data.get? "mediaUrl").bind Json.str?
  match tag with
  | "textMessage" => ofContent tag ((TextContent.ofJson? d).map .text)
  | "mediaMessage" => ofContent tag ((MediaContent.ofJson? d).map .media)
  | "locationMessage" => ofContent tag ((LocationContent.ofJson? d).map .location)
  | "quickReply" => ofContent tag ((QuickReply.ofJson? d).map .quickReply)
  | "quickReplyImage" => ofMediaReply tag .image mediaUrl (QuickReply.ofJson? d)
  | "quickReplyVideo" => ofMediaReply tag .video mediaUrl (QuickReply.ofJson? d)
  | "listMessage" => ofContent tag ((ListMessage.ofJson? d).map .list)
  | "buttonsMessage" => ofContent tag ((ButtonsMessage.ofJson? d).map .buttons)
  | "carousel" => ofContent tag ((Carousel.ofJson? d).map .carousel)
  | "httpAction" => ofContent tag ((HttpCall.ofJson? d).map .httpCall)
  | "bookAppointment" => ofContent tag ((BookAppointment.ofJson? d).map .bookAppointment)
  | "checkBookings" => ofContent tag ((CheckBookings.ofJson? d).map .checkBookings)
  | _ => .unsupported tag .unknownType

/-- The type tag that the kind is written under. -/
def tag : NodeKind → String
  | .text _ => "textMessage"
  | .media _ => "mediaMessage"
  | .location _ => "locationMessage"
  | .quickReply content =>
    match content.media with
    | none => "quickReply"
    | some header => if header.mediaType = .video then "quickReplyVideo" else "quickReplyImage"
  | .list _ => "listMessage"
  | .buttons _ => "buttonsMessage"
  | .carousel _ => "carousel"
  | .httpCall _ => "httpAction"
  | .bookAppointment _ => "bookAppointment"
  | .checkBookings _ => "checkBookings"
  | .unsupported tag _ => tag

/-- The family of the kind. -/
def category : NodeKind → NodeCategory
  | .text _ | .media _ | .location _ => .message
  | .quickReply _ | .list _ | .buttons _ | .carousel _ => .interactive
  | .httpCall _ => .action
  | .bookAppointment _ | .checkBookings _ => .booking
  | .unsupported _ _ => .unsupported

/-- Whether a chain waits for a reply after the node. -/
def isInteractive (k : NodeKind) : Bool := k.category == .interactive

/-- The identifiers that a participant can send back, in order. -/
def replyIds : NodeKind → List String
  | .quickReply content => content.buttons.map ReplyButton.id
  | .list content => content.rows.map ListRow.id
  | .buttons content => content.buttons.map ActionButton.id
  | .carousel content => content.buttons.map fun b => b.2.id
  | _ => []

/-- Whether a participant can send an identifier back. -/
def offers (k : NodeKind) (replyId : String) : Bool := k.replyIds.contains replyId

/-- The data that the kind is written with. -/
def data : NodeKind → Json
  | .text c => c.toJson
  | .media c => c.toJson
  | .location c => c.toJson
  | .quickReply c => c.toJson
  | .list c => c.toJson
  | .buttons c => c.toJson
  | .carousel c => c.toJson
  | .httpCall c => c.toJson
  | .bookAppointment c => c.toJson
  | .checkBookings c => c.toJson
  | .unsupported _ _ => .null

/-- The kind with standard settings for a type tag. -/
def standard (tag : String) : NodeKind := ofParts tag .null

end NodeKind

/-- A node of a graph. -/
structure Node where
  id : NodeId
  kind : NodeKind
  deriving DecidableEq, Repr

namespace Node

open FieldReader in
def fields : FieldReader Node := do
  let id ← required ["id"] Json.str?
  let tag ← required ["type"] Json.str?
  let data ← withDefault ["data"] .null some
  return ⟨id, .ofParts tag data⟩

def ofJson? : Json → Option Node := Json.record? fields

def toJson (n : Node) : Json :=
  .object [("id", .str n.id), ("type", .str n.kind.tag), ("data", n.kind.data)]

/-- Whether a chain waits for a reply after the node. -/
def isInteractive (n : Node) : Bool := n.kind.isInteractive

end Node

end Dialogue
