import Dialogue.Json.Record

/-!
# What message nodes say

The contents of the nodes that send a message: texts, media, locations, and the messages that a
participant replies to by a button or a row. Each is read from and written to a document; a text
that may be left out is written only where there is one.
-/

namespace Dialogue

open FieldReader

/-- The kinds of media. -/
inductive MediaType where
  | image
  | video
  | document
  | audio
  deriving DecidableEq, Repr, Inhabited

namespace MediaType

/-- The name in documents. -/
def name : MediaType → String
  | .image => "image"
  | .video => "video"
  | .document => "document"
  | .audio => "audio"

/-- Reads a name. -/
def ofJson? : Json → Option MediaType :=
  Json.choice? [("image", .image), ("video", .video), ("document", .document), ("audio", .audio)]

end MediaType

/-- A plain text. -/
structure TextContent where
  text : String
  deriving DecidableEq, Repr

namespace TextContent

def fields : FieldReader TextContent := do
  return ⟨← withDefault ["text", "message"] "" Json.str?⟩

def ofJson? : Json → Option TextContent := Json.record? fields

def toJson (c : TextContent) : Json := .object [("text", .str c.text)]

end TextContent

/-- A picture, video, document or sound. -/
structure MediaContent where
  mediaType : MediaType
  url : String
  caption : Option String
  filename : Option String
  deriving DecidableEq, Repr

namespace MediaContent

def fields : FieldReader MediaContent := do
  let mediaType ← withDefault ["mediaType"] .image MediaType.ofJson?
  let url ← withDefault ["url", "mediaUrl"] "" Json.str?
  let caption ← FieldReader.optional ["caption"] Json.str?
  let filename ← FieldReader.optional ["filename"] Json.str?
  return { mediaType, url, caption, filename }

def ofJson? : Json → Option MediaContent := Json.record? fields

def toJson (c : MediaContent) : Json :=
  .object ([("mediaType", .str c.mediaType.name), ("url", .str c.url)] ++
    Json.member? "caption" .str c.caption ++ Json.member? "filename" .str c.filename)

end MediaContent

/-- A place. -/
structure LocationContent where
  latitude : Binary64
  longitude : Binary64
  name : Option String
  address : Option String
  deriving DecidableEq, Repr

namespace LocationContent

def fields : FieldReader LocationContent := do
  let latitude ← withDefault ["latitude"] (.zero false) Json.number?
  let longitude ← withDefault ["longitude"] (.zero false) Json.number?
  let name ← FieldReader.optional ["name"] Json.str?
  let address ← FieldReader.optional ["address"] Json.str?
  return { latitude, longitude, name, address }

def ofJson? : Json → Option LocationContent := Json.record? fields

def toJson (c : LocationContent) : Json :=
  .object ([("latitude", .float c.latitude), ("longitude", .float c.longitude)] ++
    Json.member? "name" .str c.name ++ Json.member? "address" .str c.address)

end LocationContent

/-- The picture or video above a message. -/
structure MediaHeader where
  mediaType : MediaType
  url : String
  deriving DecidableEq, Repr

namespace MediaHeader

def fields : FieldReader MediaHeader := do
  let mediaType ← withDefault ["mediaType"] .image MediaType.ofJson?
  let url ← required ["url"] Json.str?
  return { mediaType, url }

def ofJson? : Json → Option MediaHeader := Json.record? fields

def toJson (h : MediaHeader) : Json :=
  .object [("mediaType", .str h.mediaType.name), ("url", .str h.url)]

end MediaHeader

/-- A button that sends its identifier back. -/
structure ReplyButton where
  id : String
  title : String
  deriving DecidableEq, Repr

namespace ReplyButton

def fields : FieldReader ReplyButton := do
  let id ← required ["id"] Json.str?
  let title ← required ["title"] Json.str?
  return { id, title }

def ofJson? : Json → Option ReplyButton := Json.record? fields

def toJson (b : ReplyButton) : Json := .object [("id", .str b.id), ("title", .str b.title)]

end ReplyButton

/-- A message with reply buttons. -/
structure QuickReply where
  header : Option String
  body : String
  footer : Option String
  media : Option MediaHeader
  buttons : List ReplyButton
  deriving DecidableEq, Repr

namespace QuickReply

def fields : FieldReader QuickReply := do
  let header ← FieldReader.optional ["header"] Json.str?
  let body ← withDefault ["body", "text"] "" Json.str?
  let footer ← FieldReader.optional ["footer"] Json.str?
  let media ← FieldReader.optional ["media"] MediaHeader.ofJson?
  let buttons ← withDefault ["buttons"] [] (Json.list? ReplyButton.ofJson?)
  return { header, body, footer, media, buttons }

def ofJson? : Json → Option QuickReply := Json.record? fields

def toJson (c : QuickReply) : Json :=
  .object (Json.member? "header" .str c.header ++ [("body", .str c.body)] ++
    Json.member? "footer" .str c.footer ++ Json.member? "media" MediaHeader.toJson c.media ++
    [("buttons", .arr (c.buttons.map ReplyButton.toJson))])

end QuickReply

/-- A row of a list. -/
structure ListRow where
  id : String
  title : String
  description : Option String
  deriving DecidableEq, Repr

namespace ListRow

def fields : FieldReader ListRow := do
  let id ← required ["id"] Json.str?
  let title ← required ["title"] Json.str?
  let description ← FieldReader.optional ["description"] Json.str?
  return { id, title, description }

def ofJson? : Json → Option ListRow := Json.record? fields

def toJson (r : ListRow) : Json :=
  .object ([("id", .str r.id), ("title", .str r.title)] ++
    Json.member? "description" .str r.description)

end ListRow

/-- A group of rows. -/
structure ListSection where
  title : Option String
  rows : List ListRow
  deriving DecidableEq, Repr

namespace ListSection

def fields : FieldReader ListSection := do
  let title ← FieldReader.optional ["title"] Json.str?
  let rows ← withDefault ["rows"] [] (Json.list? ListRow.ofJson?)
  return { title, rows }

def ofJson? : Json → Option ListSection := Json.record? fields

def toJson (s : ListSection) : Json :=
  .object (Json.member? "title" .str s.title ++ [("rows", .arr (s.rows.map ListRow.toJson))])

end ListSection

/-- A message with a list to pick from. -/
structure ListMessage where
  header : Option String
  body : String
  footer : Option String
  buttonLabel : String
  sections : List ListSection
  deriving DecidableEq, Repr

namespace ListMessage

/-- The label of the button that opens a list, if none is given. -/
def standardLabel : String := "Options"

def fields : FieldReader ListMessage := do
  let header ← FieldReader.optional ["header"] Json.str?
  let body ← withDefault ["body", "text"] "" Json.str?
  let footer ← FieldReader.optional ["footer"] Json.str?
  let buttonLabel ← withDefault ["buttonLabel"] standardLabel Json.str?
  let sections ← withDefault ["sections"] [] (Json.list? ListSection.ofJson?)
  return { header, body, footer, buttonLabel, sections }

def ofJson? : Json → Option ListMessage := Json.record? fields

def toJson (c : ListMessage) : Json :=
  .object (Json.member? "header" .str c.header ++ [("body", .str c.body)] ++
    Json.member? "footer" .str c.footer ++ [("buttonLabel", .str c.buttonLabel),
      ("sections", .arr (c.sections.map ListSection.toJson))])

/-- All rows in order. -/
def rows (c : ListMessage) : List ListRow := c.sections.flatMap ListSection.rows

end ListMessage

/-- What an action button does besides having an identifier and a title. -/
inductive ButtonAction where
  | quickReply
  | call (phoneNumber : String)
  | url (url : String)
  | copy (copyCode : String)
  deriving DecidableEq, Repr

/-- A button that replies, calls, opens a page or copies a code. -/
structure ActionButton where
  id : String
  title : String
  action : ButtonAction
  deriving DecidableEq, Repr

namespace ActionButton

/-- Whether the button sends its identifier back. -/
def isQuickReply (b : ActionButton) : Bool := b.action == .quickReply

/-- The fields of a button whose action has none or one of its own. -/
def fields (action : FieldReader ButtonAction) : FieldReader ActionButton := do
  let id ← required ["id"] Json.str?
  let title ← required ["title"] Json.str?
  return { id, title, action := ← action }

def ofJson? (j : Json) : Option ActionButton := do
  let (tag, rest) ← j.splitTag? "type"
  match tag with
  | "quick_reply" => rest.record? (fields (pure .quickReply))
  | "call" => rest.record? (fields (return .call (← required ["phoneNumber"] Json.str?)))
  | "url" => rest.record? (fields (return .url (← required ["url"] Json.str?)))
  | "copy" => rest.record? (fields (return .copy (← required ["copyCode"] Json.str?)))
  | _ => none

/-- The tag of the action and the members it adds. -/
def actionMembers : ButtonAction → List (String × Json)
  | .quickReply => [("type", .str "quick_reply")]
  | .call phone => [("type", .str "call"), ("phoneNumber", .str phone)]
  | .url url => [("type", .str "url"), ("url", .str url)]
  | .copy code => [("type", .str "copy"), ("copyCode", .str code)]

def toJson (b : ActionButton) : Json :=
  .object ([("id", .str b.id), ("title", .str b.title)] ++ actionMembers b.action)

end ActionButton

/-- A message with action buttons. -/
structure ButtonsMessage where
  header : Option String
  body : String
  footer : Option String
  buttons : List ActionButton
  deriving DecidableEq, Repr

namespace ButtonsMessage

def fields : FieldReader ButtonsMessage := do
  let header ← FieldReader.optional ["header"] Json.str?
  let body ← withDefault ["body", "text"] "" Json.str?
  let footer ← FieldReader.optional ["footer"] Json.str?
  let buttons ← withDefault ["buttons"] [] (Json.list? ActionButton.ofJson?)
  return { header, body, footer, buttons }

def ofJson? : Json → Option ButtonsMessage := Json.record? fields

def toJson (c : ButtonsMessage) : Json :=
  .object (Json.member? "header" .str c.header ++ [("body", .str c.body)] ++
    Json.member? "footer" .str c.footer ++
    [("buttons", .arr (c.buttons.map ActionButton.toJson))])

end ButtonsMessage

/-- A card of a carousel. -/
structure CarouselCard where
  id : String
  text : String
  media : Option MediaHeader
  buttons : List ActionButton
  deriving DecidableEq, Repr

namespace CarouselCard

def fields : FieldReader CarouselCard := do
  let id ← required ["id"] Json.str?
  let text ← withDefault ["text"] "" Json.str?
  let media ← FieldReader.optional ["media"] MediaHeader.ofJson?
  let buttons ← withDefault ["buttons"] [] (Json.list? ActionButton.ofJson?)
  return { id, text, media, buttons }

def ofJson? : Json → Option CarouselCard := Json.record? fields

def toJson (c : CarouselCard) : Json :=
  .object ([("id", .str c.id), ("text", .str c.text)] ++
    Json.member? "media" MediaHeader.toJson c.media ++
    [("buttons", .arr (c.buttons.map ActionButton.toJson))])

end CarouselCard

/-- Cards beside one another. -/
structure Carousel where
  body : String
  cards : List CarouselCard
  deriving DecidableEq, Repr

namespace Carousel

def fields : FieldReader Carousel := do
  let body ← withDefault ["body", "text"] "" Json.str?
  let cards ← withDefault ["cards"] [] (Json.list? CarouselCard.ofJson?)
  return { body, cards }

def ofJson? : Json → Option Carousel := Json.record? fields

def toJson (c : Carousel) : Json :=
  .object [("body", .str c.body), ("cards", .arr (c.cards.map CarouselCard.toJson))]

/-- The buttons of all cards, each with the identifier of its card. -/
def buttons (c : Carousel) : List (String × ActionButton) :=
  c.cards.flatMap fun card => card.buttons.map fun b => (card.id, b)

/-- The number of buttons that send their identifier back. -/
def quickReplyCount (c : Carousel) : Nat := (c.buttons.filter fun b => b.2.isQuickReply).length

end Carousel

end Dialogue
