import Dialogue.Graph.HttpCall
import Dialogue.Http.Allowlist
import Dialogue.Program
import Dialogue.Template
import Dialogue.Url.Basic

/-!
# Calling out

A call is prepared before anything is sent: its placeholders are resolved, its address must be a
secure web address and its host an allowed one. Running a call sends at most one request and never
fails; what went wrong is told in the outcome, whose handle says where a chain goes on.
-/

namespace Dialogue

/-- The limits of every call. -/
structure HttpLimits where
  timeoutMs : UInt64
  maxResponseBytes : Nat
  deriving DecidableEq, Repr

/-- Ten seconds and five mebibytes. -/
def HttpLimits.standard : HttpLimits := ⟨10000, 5 * 1024 * 1024⟩

/-- What holds for every call: its limits, and what hosts are called. -/
structure HttpSettings extends HttpLimits where
  hostNames : HostNames

-- Limits alone know no name of a domain with characters outside ASCII.
instance : Coe HttpLimits HttpSettings := ⟨fun limits => ⟨limits, .none⟩⟩

def HttpSettings.standard : HttpSettings := HttpLimits.standard

/-- The credentials of a request. -/
inductive RequestAuth where
  | none
  | bearer (token : String)
  | basic (username password : String)
  deriving DecidableEq, Repr

/-- The body of a request. -/
inductive RequestBody where
  | empty
  | json (value : Json)
  | form (pairs : List (String × String))
  deriving DecidableEq, Repr

/-- A request that passed every check. -/
structure HttpRequest where
  method : HttpMethod
  url : Url
  auth : RequestAuth
  headers : List (String × String)
  body : RequestBody
  timeoutMs : UInt64
  deriving DecidableEq, Repr

namespace RequestAuth

def toJson : RequestAuth → Json
  | .none => .null
  | .bearer token => .object [("bearer", .str token)]
  | .basic username password => .object [("basic", .strings [username, password])]

def ofJson? : Json → Option RequestAuth
  | .null => some .none
  | .obj [("bearer", .str token)] => some (.bearer token)
  | .obj [("basic", .arr [.str username, .str password])] => some (.basic username password)
  | _ => Option.none

end RequestAuth

/-- A name and a value as an array of two. -/
def pairJson (p : String × String) : Json := .strings [p.1, p.2]

/-- Reads a name and a value. -/
def pairOfJson? : Json → Option (String × String)
  | .arr [.str name, .str value] => some (name, value)
  | _ => none

namespace RequestBody

def toJson : RequestBody → Json
  | .empty => .null
  | .json value => .object [("json", value)]
  | .form pairs => .object [("form", .arr (pairs.map pairJson))]

def ofJson? : Json → Option RequestBody
  | .null => some .empty
  | .obj [("json", value)] => some (.json value)
  | .obj [("form", pairs)] => (pairs.list? pairOfJson?).map .form
  | _ => none

end RequestBody

namespace HttpRequest

def toJson (r : HttpRequest) : Json :=
  .object [("method", .str r.method.name), ("url", .str r.url.text), ("auth", r.auth.toJson),
    ("headers", .arr (r.headers.map pairJson)), ("body", r.body.toJson),
    ("timeout_ms", .ofUInt64 r.timeoutMs)]

end HttpRequest

/-- A response that was read to its end. -/
structure HttpResponse where
  status : Nat
  body : List UInt8
  deriving DecidableEq, Repr

/-- Why a request brought no response. -/
inductive HttpFailure where
  | timeout (ms : UInt64)
  | redirect (status : Nat)
  | tooLarge (limit : Nat)
  | failed (details : String)
  deriving DecidableEq, Repr

/-- The failure in words. -/
def HttpFailure.message : HttpFailure → String
  | .timeout ms => "request timed out after " ++ toString ms ++ "ms"
  | .redirect status => "redirects not supported (status " ++ toString status ++ ")"
  | .tooLarge limit => "response exceeds " ++ toString limit ++ " bytes"
  | .failed details => "request failed: " ++ details

/-- Why a call is not sent. -/
inductive Rejection where
  | address (raw : String) (error : UrlError)
  | notSecure (scheme : String)
  | noHost
  | nothingAllowed
  | notAllowed (host : String)
  | body
  deriving DecidableEq, Repr

/-- The reason in words. -/
def Rejection.message : Rejection → String
  | .address raw error => "invalid URL '" ++ raw ++ "': " ++ error.message
  | .notSecure scheme => "only HTTPS URLs are allowed, got '" ++ scheme ++ "'"
  | .noHost => "URL has no host"
  | .nothingAllowed => "no domains are allowlisted for HTTP actions"
  | .notAllowed host => "domain '" ++ host ++ "' is not in the allowlist"
  | .body => "request body is not valid JSON"

namespace HttpCall

/-- Names and values with their placeholders resolved; those without a name are left out. -/
def resolvePairs (scope : Json) (pairs : List KeyValue) : List (String × String) :=
  (pairs.map fun p =>
    (Text.trim (Template.resolve p.key scope), Template.resolve p.value scope)).filter
      fun p => !p.1.isEmpty

/-- The address of a call, if calls may go there. -/
def address (c : HttpCall) (names : HostNames) (scope : Json) (allowed : Allowlist) :
    Except Rejection Url := do
  let raw := Template.resolve c.url scope
  let url ← match Url.parse (Text.trim raw) names with
    | .ok url => .ok url
    | .error e => .error (.address raw e)
  if url.scheme ≠ "https" then
    throw (.notSecure url.scheme)
  match url.host with
  | none => throw .noHost
  | some host =>
    if allowed.isEmpty then
      throw .nothingAllowed
    if allowed.permits host then return url else throw (.notAllowed host)

/-- The credentials of a call. -/
def credentials (scope : Json) : HttpAuth → RequestAuth
  | .none => .none
  | .bearer token => .bearer (Template.resolve token scope)
  | .basic username password =>
    .basic (Template.resolve username scope) (Template.resolve password scope)

/-- The body of a call. -/
def content (scope : Json) : HttpBody → Except Rejection RequestBody
  | .none => .ok .empty
  | .json text =>
    if (Text.trim text).isEmpty then .ok .empty
    else match Template.resolveDocument? text scope with
      | some v => .ok (.json v)
      | none => .error .body
  | .form pairs => .ok (.form (resolvePairs scope pairs))

/-- Resolves and checks a call. -/
def prepare (c : HttpCall) (settings : HttpSettings) (scope : Json) (allowed : Allowlist) :
    Except Rejection HttpRequest := do
  let url ← c.address settings.hostNames scope allowed
  let body ← content scope c.body
  return {
    method := c.method
    url := url.addPairs (resolvePairs scope c.queryParams)
    auth := credentials scope c.auth
    headers := resolvePairs scope c.headers
    body := body
    timeoutMs := c.timeoutMs.getD settings.timeoutMs }

end HttpCall

/-- What came of a call. -/
structure HttpOutcome where
  success : Bool
  status : Option Nat
  data : Json
  error : Option String
  mapped : Members
  deriving DecidableEq, Repr

namespace HttpOutcome

/-- A call that brought no response. -/
def failure (reason : String) : HttpOutcome := ⟨false, none, .null, some reason, []⟩

/-- The handle along which a chain goes on. -/
def handle (o : HttpOutcome) : String := if o.success then "success" else "error"

/-- The outcome as a variable. -/
def toJson (o : HttpOutcome) : Json :=
  .object [("success", .bool o.success), ("status", .ofOption (fun n => .int (n : Nat)) o.status),
    ("data", o.data), ("error", .ofOption .str o.error)]

end HttpOutcome

namespace HttpResponse

/-- Whether the status tells of success. -/
def isSuccess (r : HttpResponse) : Bool := 200 ≤ r.status && r.status < 300

/-- The value of a body: a document, else a text, and null for an empty one. -/
def data (r : HttpResponse) : Json :=
  if r.body.isEmpty then .null
  else (Json.parseBytes? r.body).getD (.str (Utf8.lossyText r.body))

end HttpResponse

namespace HttpCall

/-- The variables that a response gives values to; the last mapping of a variable counts. -/
def mapped (c : HttpCall) (data : Json) : Members :=
  .ofList ((c.responseMapping.filter fun m => !(Text.trim m.target).isEmpty).filterMap fun m =>
    (data.lookup? m.path).map fun v => (Text.trim m.target, v))

/-- The outcome of a response. -/
def outcome (c : HttpCall) (r : HttpResponse) : HttpOutcome where
  success := r.isSuccess
  status := some r.status
  data := r.data
  error := if r.isSuccess then none else some ("HTTP " ++ toString r.status)
  mapped := if r.isSuccess then c.mapped r.data else []

/-- Runs a call. -/
def run (c : HttpCall) (settings : HttpSettings) (scope : Json) (allowed : Allowlist) :
    Program HttpRequest (fun _ => Except HttpFailure HttpResponse) HttpOutcome :=
  match c.prepare settings scope allowed with
  | .error reason => .done (.failure reason.message)
  | .ok request =>
    .ask request fun
      | .ok response => .done (c.outcome response)
      | .error failure => .done (.failure failure.message)

end HttpCall

end Dialogue
