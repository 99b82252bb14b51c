import Dialogue.Http.Action
import Dialogue.Text.Base64
import Dialogue.Url.Form

/-!
# HTTP on the wire

What a server sees of a request, and what becomes of what it sends back. A name or a value that a
header cannot hold stops a request before it is sent. A redirect is refused whatever follows it;
a body is taken up to a limit, which counts for the length that is declared and again for what
really arrives.
-/

namespace Dialogue

/-- What a server sees of a request. -/
structure WireRequest where
  method : String
  path : String
  headers : List (String × String)
  body : String
  deriving DecidableEq, Repr

namespace WireRequest

/-- Whether a character may stand in the name of a header. -/
def isNameChar (c : Char) : Bool := c.isAlphanum || "!#$%&'*+-.^_`|~".toList.contains c

/-- The name of a header in small letters, if it is one. -/
def name? (name : String) : Option String :=
  if !name.isEmpty && name.toList.all isNameChar then some name.toLower else none

/-- Whether a character may stand in the value of a header. -/
def isValueChar (c : Char) : Bool := c == '\t' || (32 ≤ c.toNat && c.toNat != 127)

/-- A header, if its name and its value are allowed. -/
def header? (p : String × String) : Option (String × String) := do
  let name ← name? p.1
  if p.2.toList.all isValueChar then some (name, p.2) else none

/-- The header of credentials. -/
def credentials : RequestAuth → List (String × String)
  | .none => []
  | .bearer token => [("authorization", "Bearer " ++ token)]
  | .basic username password =>
    [("authorization", "Basic " ++
      String.ofList (Base64.encode (Utf8.encodeText (username ++ ":" ++ password))))]

/-- The media type of a body. -/
def mediaType? : RequestBody → Option String
  | .empty => none
  | .json _ => some "application/json"
  | .form _ => some "application/x-www-form-urlencoded"

/-- The header that tells the media type of a body, unless one is given. -/
def contentType (given : List (String × String)) (body : RequestBody) : List (String × String) :=
  if given.any fun p => p.1 == "content-type" then []
  else ((mediaType? body).map fun t => ("content-type", t)).toList

/-- The text of a body. -/
def bodyText : RequestBody → String
  | .empty => ""
  | .json value => value.render
  | .form pairs => Form.write pairs

/-- What a server sees of a request, if its headers are allowed. -/
def of? (r : HttpRequest) : Option WireRequest := do
  let given ← (r.headers ++ credentials r.auth).mapM header?
  return {
    method := r.method.name
    path := r.url.path ++ (match r.url.query with
      | some q => "?" ++ q
      | none => "")
    headers := given ++ contentType given r.body
    body := bodyText r.body }

/-- Whether a header stands before another in the order of names and values. -/
def precedes (a b : String × String) : Bool := a.1 < b.1 || (a.1 == b.1 && a.2 ≤ b.2)

/-- A request as an object with its headers in order; the body is given. -/
def toJson (r : WireRequest) (body : Json) : Json :=
  .object [("method", .str r.method), ("path", .str r.path), ("body", body),
    ("headers", .arr ((r.headers.mergeSort precedes).map pairJson))]

end WireRequest

/-- How what a server sends comes to an end. -/
inductive Ending where
  | complete
  | broken
  | stalled
  deriving DecidableEq, Repr

/-- What a server sends: a head, which may declare the length of the body and name another place,
and the body in chunks. -/
structure Arrival where
  status : Nat
  location : Option String
  declared : Option Nat
  chunks : List (List UInt8)
  ending : Ending
  deriving DecidableEq, Repr

/-- What becomes of a request that is sent. -/
inductive Reception where
  | arrived (arrival : Arrival)
  | closed
  | silent
  deriving DecidableEq, Repr

namespace Arrival

/-- How a body is taken: what is held at each turn, and whether every chunk was taken. -/
structure Intake where
  held : List (List UInt8)
  whole : Bool
  deriving DecidableEq, Repr

/-- What is held last, if every chunk was taken. -/
def Intake.body? (t : Intake) : Option (List UInt8) := if t.whole then t.held.getLast? else none

/-- Takes chunks behind what has been taken, up to a limit. Each call is a turn. -/
def collect (limit : Nat) (taken : List UInt8) : List (List UInt8) → Intake
  | [] => ⟨[taken], true⟩
  | chunk :: r =>
    if limit < taken.length + chunk.length then ⟨[taken], false⟩
    else
      let later := collect limit (taken ++ chunk) r
      ⟨taken :: later.held, later.whole⟩

/-- Whether the status is one of a redirect. -/
def isRedirect (a : Arrival) : Bool := 300 ≤ a.status && a.status < 400

/-- Whether the answer is only to be had at another place. -/
def isElsewhere (a : Arrival) : Bool :=
  [301, 302, 303, 307, 308].contains a.status && a.location.isSome

/-- Whether the declared length is beyond a limit. -/
def declaresMore (a : Arrival) (limit : Nat) : Bool :=
  match a.declared with
  | some length => limit < length
  | none => false

/-- The response of what a server sends. -/
def response (a : Arrival) (limit : Nat) (timeoutMs : UInt64) : Except HttpFailure HttpResponse :=
  if a.isRedirect then .error (.redirect a.status)
  else if a.declaresMore limit then .error (.tooLarge limit)
  else match (collect limit [] a.chunks).body? with
    | none => .error (.tooLarge limit)
    | some body => match a.ending with
      | .complete => .ok ⟨a.status, body⟩
      | .broken => .error (.failed "connection broken")
      | .stalled => .error (.timeout timeoutMs)

end Arrival

/-- The response of what becomes of a request. -/
def Reception.response (limit : Nat) (timeoutMs : UInt64) :
    Reception → Except HttpFailure HttpResponse
  | .arrived a => a.response limit timeoutMs
  | .closed => .error (.failed "connection closed")
  | .silent => .error (.timeout timeoutMs)

/-- Sends a request: at most one, and none whose headers are not allowed. -/
def HttpRequest.send (r : HttpRequest) (limit : Nat) :
    Program WireRequest (fun _ => Reception) (Except HttpFailure HttpResponse) :=
  match WireRequest.of? r with
  | none => .done (.error (.failed "header not allowed"))
  | some wire => .ask wire fun reception => .done (reception.response limit r.timeoutMs)

end Dialogue
