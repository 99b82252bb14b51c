import Dialogue.Http.Wire
import Dialogue.Json.Skim
import Dialogue.Message.Failure
import Dialogue.Message.Outbound

/-!
# The messaging provider

A message is posted to the provider's address of its kind, with the token of the channel. The
provider tells whether the message was sent and, if so, its identifier. An answer that is only to
be had at another place counts as none.
-/

namespace Dialogue

/-- Where the provider is reached. -/
structure Provider where
  baseUrl : String
  timeoutMs : UInt64
  hostNames : HostNames

namespace Provider

/-- The provider at an address; slashes at its end do not count. -/
def ofUrl (url : String) (timeoutMs : UInt64) (names : HostNames := .none) : Provider :=
  ⟨String.ofList (Text.dropEndChars '/' url.toList), timeoutMs, names⟩

/-- The address of a kind of message. -/
def route : OutboundMessage → String
  | .text _ => "text"
  | .interactive _ => "interactive"
  | .media content => content.mediaType.name
  | .location _ => "location"

/-- A text in an object of its own. -/
def wrapped (text : String) : Json := .object [("text", .str text)]

/-- The members of an interactive message; its body and footer are wrapped. -/
def interactiveMembers (m : InteractiveMessage) : List (String × Json) :=
  [("type", .str m.layout.name), ("body", wrapped m.body), ("action", m.action)] ++
    Json.member? "header" id m.header ++ Json.member? "footer" wrapped m.footer ++
    Json.member? "media" .str m.media

/-- The members of a message. -/
def members : OutboundMessage → List (String × Json)
  | .text body => [("body", .str body)]
  | .interactive m => interactiveMembers m
  | .media c =>
    [("media", .str c.url)] ++ Json.member? "caption" .str c.caption ++
      Json.member? "filename" .str c.filename
  | .location c =>
    [("latitude", .float c.latitude), ("longitude", .float c.longitude)] ++
      Json.member? "name" .str c.name ++ Json.member? "address" .str c.address

/-- The document that is posted. -/
def payload (phone : String) (m : OutboundMessage) : Json :=
  .object (members m ++ [("to", .str phone)])

/-- The request that posts a message, if the address can be read. -/
def request? (p : Provider) (token phone : String) (m : OutboundMessage) : Option HttpRequest :=
  (Url.parse (p.baseUrl ++ "/messages/" ++ route m) p.hostNames).toOption.map fun url => {
    method := .post
    url := url
    auth := .bearer token
    headers := []
    body := .json (payload phone m)
    timeoutMs := p.timeoutMs }

/-- What the provider tells: whether the message was sent, and its identifier. -/
structure Receipt where
  sent : Bool
  messageId : Option String
  deriving DecidableEq, Repr

/-- Reads the part that holds the identifier. -/
def messageId? (bytes : List UInt8) : Option String := do
  let fields ← Json.fields? ["id"] bytes
  let id ← fields.lookup "id"
  (Json.parseBytes? id).bind Json.str?

/-- Reads what the provider tells: a missing flag is not set, and a missing or empty part holds no
identifier. Of all else in the body only the form matters. -/
def receipt? (body : List UInt8) : Option Receipt := do
  let fields ← Json.fields? ["sent", "message"] body
  let sent ← match fields.lookup "sent" with
    | none => some false
    | some flag => (Json.parseBytes? flag).bind Json.bool?
  let messageId ← match fields.lookup "message" with
    | none => some none
    | some part =>
      if Json.parseBytes? part = some .null then some none else (messageId? part).map some
  return ⟨sent, messageId⟩

/-- The identifier in a body. -/
def accepted (body : List UInt8) : Except MessagingError String :=
  match receipt? body with
  | some ⟨true, some id⟩ => .ok id
  | some _ => .error (.invalidResponse "message was not sent")
  | none => .error (.invalidResponse "unreadable")

/-- What came of posting a message. -/
def result (a : Arrival) : Except MessagingError String :=
  let whole := a.ending == .complete
  if 200 ≤ a.status && a.status < 300 then
    if whole then accepted a.chunks.flatten else .error (.invalidResponse "unreadable")
  else .error (.provider a.status (if whole then Utf8.lossyText a.chunks.flatten else ""))

/-- Posts a message. -/
def send (p : Provider) (token phone : String) (m : OutboundMessage) :
    Program WireRequest (fun _ => Reception) (Except MessagingError String) :=
  match (p.request? token phone m).bind WireRequest.of? with
  | none => .done (.error (.transport "request not allowed"))
  | some wire => .ask wire fun
    | .arrived a =>
      if a.isElsewhere then .done (.error (.transport "the provider is elsewhere"))
      else .done (result a)
    | .closed => .done (.error (.transport "connection closed"))
    | .silent => .done (.error (.transport "timeout"))

end Provider

end Dialogue
