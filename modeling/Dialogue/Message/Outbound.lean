import Dialogue.Graph.Node

/-!
# Messages to participants

What a node says, laid out for the messaging provider. Contents are sent as they were authored. An
interactive message is laid out as buttons, a list or a carousel, and carries the identifiers that
a participant sends back.
-/

namespace Dialogue

/-- The layouts of an interactive message. -/
inductive Layout where
  | button
  | list
  | carousel
  deriving DecidableEq, Repr

/-- The name of a layout. -/
def Layout.name : Layout → String
  | .button => "button"
  | .list => "list"
  | .carousel => "carousel"

/-- A message that a participant can reply to by a button or a row. -/
structure InteractiveMessage where
  layout : Layout
  header : Option Json
  body : String
  footer : Option String
  action : Json
  media : Option String
  deriving DecidableEq, Repr

namespace InteractiveMessage

def toJson (m : InteractiveMessage) : Json :=
  .object ([("type", .str m.layout.name), ("body", .str m.body), ("action", m.action)] ++
    Json.member? "header" id m.header ++ Json.member? "footer" .str m.footer ++
    Json.member? "media" .str m.media)

end InteractiveMessage

/-- A message to a participant. -/
inductive OutboundMessage where
  | text (body : String)
  | interactive (message : InteractiveMessage)
  | media (content : MediaContent)
  | location (content : LocationContent)
  deriving DecidableEq, Repr

namespace OutboundMessage

/-- Whether a participant can reply to the message by a button or a row. -/
def isInteractive : OutboundMessage → Bool
  | .interactive _ => true
  | _ => false

/-- The name of the kind of message. -/
def kind : OutboundMessage → String
  | .text _ => "text"
  | .interactive _ => "interactive"
  | .media _ => "media"
  | .location _ => "location"

/-- The content of a message as a value. -/
def content : OutboundMessage → Json
  | .text body => .str body
  | .interactive message => message.toJson
  | .media c =>
    .object [("media_type", .str c.mediaType.name), ("url", .str c.url),
      ("caption", .ofOption .str c.caption), ("filename", .ofOption .str c.filename)]
  | .location c =>
    .object [("latitude", .float c.latitude), ("longitude", .float c.longitude),
      ("name", .ofOption .str c.name), ("address", .ofOption .str c.address)]

def toJson (m : OutboundMessage) : Json := .object [(m.kind, m.content)]

end OutboundMessage

/-- A header, unless it is empty. -/
def headerJson? (header : Option String) : Option Json :=
  (header.filter fun h => !h.isEmpty).map fun h => .object [("text", .str h)]

namespace ReplyButton

/-- The button as the provider takes it. -/
def action (b : ReplyButton) : Json :=
  .object [("type", .str "quick_reply"), ("id", .str b.id), ("title", .str b.title)]

end ReplyButton

namespace QuickReply

/-- The message of a quick reply. -/
def message (c : QuickReply) : InteractiveMessage where
  layout := .button
  header := headerJson? c.header
  body := c.body
  footer := c.footer
  action := .object [("buttons", .arr (c.buttons.map ReplyButton.action))]
  media := c.media.map MediaHeader.url

end QuickReply

namespace ListMessage

/-- The message of a list; rows and sections are laid out as they are stored. -/
def message (c : ListMessage) : InteractiveMessage where
  layout := .list
  header := headerJson? c.header
  body := c.body
  footer := c.footer
  action := .object [("list", .object [("label", .str c.buttonLabel),
    ("sections", .arr (c.sections.map ListSection.toJson))])]
  media := none

end ListMessage

namespace ActionButton

/-- What the provider takes for an action. -/
def providerMembers : ButtonAction → List (String × Json)
  | .quickReply => [("type", .str "quick_reply")]
  | .call phone => [("type", .str "call"), ("phone_number", .str phone)]
  | .url url => [("type", .str "url"), ("url", .str url)]
  | .copy code => [("type", .str "copy"), ("copy_code", .str code)]

/-- The button as the provider takes it. -/
def providerJson (b : ActionButton) : Json :=
  .object ([("id", .str b.id), ("title", .str b.title)] ++ providerMembers b.action)

end ActionButton

/-- Action buttons as the provider takes them. -/
def actionsJson (buttons : List ActionButton) : Json :=
  .object [("buttons", .arr (buttons.map ActionButton.providerJson))]

namespace ButtonsMessage

/-- The message of action buttons. -/
def message (c : ButtonsMessage) : InteractiveMessage where
  layout := .button
  header := headerJson? c.header
  body := c.body
  footer := c.footer
  action := actionsJson c.buttons
  media := none

end ButtonsMessage

namespace CarouselCard

/-- The card as the provider takes it. -/
def providerJson (c : CarouselCard) : Json :=
  .object [("id", .str c.id),
    ("media", .ofOption (fun h => .object [("media", .str h.url)]) c.media),
    ("text", .str c.text), ("action", actionsJson c.buttons)]

end CarouselCard

namespace Carousel

/-- The message of a carousel. -/
def message (c : Carousel) : InteractiveMessage where
  layout := .carousel
  header := none
  body := c.body
  footer := none
  action := .object [("cards", .arr (c.cards.map CarouselCard.providerJson))]
  media := none

end Carousel

/-- The message of a node, if its kind sends one of its own. -/
def NodeKind.message? : NodeKind → Option OutboundMessage
  | .text c => some (.text c.text)
  | .media c => some (.media c)
  | .location c => some (.location c)
  | .quickReply c => some (.interactive c.message)
  | .list c => some (.interactive c.message)
  | .buttons c => some (.interactive c.message)
  | .carousel c => some (.interactive c.message)
  | .httpCall _ | .bookAppointment _ | .checkBookings _ | .unsupported _ _ => none

end Dialogue
