import Dialogue.Delivery.Handle
import Dialogue.Json.Reader
import Dialogue.Json.Writer
import Dialogue.Text.Utf8
import Dialogue.Url.Percent

/-!
# The web endpoint

Deliveries are posted to an address that names the account and the token; another address tells
that the service is well. A body that is no document is handled as an empty delivery. Answers to
refused deliveries never tell details.
-/

namespace Dialogue

/-- A request to the endpoint. -/
structure WebRequest where
  method : String
  path : String
  body : List UInt8
  deriving Repr

/-- A response of the endpoint. -/
structure WebResponse where
  status : Nat
  body : String
  deriving DecidableEq, Repr

/-- Why a delivery is refused by the endpoint. -/
inductive WebError where
  | unauthorized
  | internal (details : String)
  deriving DecidableEq, Repr

namespace WebError

/-- The cause in words. -/
def message : WebError → String
  | .unauthorized => "unauthorized"
  | .internal details => "internal error: " ++ details

/-- The response that tells of an error, without its details. -/
def response : WebError → WebResponse
  | .unauthorized => ⟨401, (Json.object [("error", .str "unauthorized")]).render⟩
  | .internal _ => ⟨500, (Json.object [("error", .str "internal error")]).render⟩

end WebError

/-- Where a request goes. -/
inductive WebRoute where
  | webhook (account token : String)
  | health
  | undecodable (parameter : String)
  | wrongMethod
  | unknown
  deriving DecidableEq, Repr

namespace WebRoute

/-- The part of an address in front of its query and fragment. -/
def pathOf (target : List Char) : List Char := target.takeWhile fun c => c != '?' && c != '#'

/-- A parameter without its percent signs. -/
def parameter? (s : List Char) : Option String :=
  (Utf8.decode? (Percent.decode (Utf8.encode s))).map String.ofList

/-- The route of the parameters of a webhook. -/
def ofParameters (account token : List Char) : WebRoute :=
  match parameter? account, parameter? token with
  | none, _ => .undecodable "account_id"
  | _, none => .undecodable "token"
  | some a, some t => .webhook a t

/-- The route of a path. -/
def ofPath (method : String) (path : List Char) : WebRoute :=
  match (Text.fields (· == '/') path) with
  | [[], first] =>
    if String.ofList first = "health" then
      if method = "GET" || method = "HEAD" then .health else .wrongMethod
    else .unknown
  | [[], first, account, token] =>
    if String.ofList first = "webhooks" && !account.isEmpty && !token.isEmpty then
      if method = "POST" then ofParameters account token else .wrongMethod
    else .unknown
  | _ => .unknown

/-- The route of a request. -/
def of (r : WebRequest) : WebRoute := ofPath r.method (pathOf r.path.toList)

end WebRoute

namespace ServiceSettings

variable (s : ServiceSettings)

/-- The response to a delivery that was handled; none where its time is out of the calendar. -/
def respond : Except DeliveryError DeliveryOutcome → Option WebResponse
  | .ok outcome => some ⟨200, (Json.object [("status", .str outcome.name)]).render⟩
  | .error .unauthorized => some WebError.unauthorized.response
  | .error (.persistence details) =>
    some (WebError.internal (Text.report (DeliveryError.persistence details).message)).response
  | .error .outOfCalendar => none

/-- Receives a delivery. -/
def receive (account token : String) (body : List UInt8) (now : Instant) :
    Service (Option WebResponse) :=
  match Id.parse .account account with
  | .error _ => pure (some WebError.unauthorized.response)
  | .ok id =>
    Program.bind (s.handle ⟨id, token, (Json.parseBytes? body).getD .null, now⟩) fun r =>
      .done (respond r)

/-- Answers a request. -/
def serve (r : WebRequest) (now : Instant) : Service (Option WebResponse) :=
  match WebRoute.of r with
  | .webhook account token => s.receive account token r.body now
  | .health => pure (some ⟨200, if r.method = "HEAD" then "" else "ok"⟩)
  | .undecodable parameter =>
    pure (some ⟨400, "Invalid URL: Invalid UTF-8 in `" ++ parameter ++ "`"⟩)
  | .wrongMethod => pure (some ⟨405, ""⟩)
  | .unknown => pure (some ⟨404, ""⟩)

end ServiceSettings

end Dialogue
