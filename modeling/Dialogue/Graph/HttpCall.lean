import Dialogue.Json.Record

/-!
# What HTTP nodes call

The authored form of a call: texts that may hold placeholders, credentials, a body, and the parts
of the response that become variables.
-/

namespace Dialogue

open FieldReader

/-- The methods of a call. -/
inductive HttpMethod where
  | get
  | post
  | put
  | patch
  | delete
  deriving DecidableEq, Repr, Inhabited

namespace HttpMethod

/-- The name in documents and requests. -/
def name : HttpMethod → String
  | .get => "GET"
  | .post => "POST"
  | .put => "PUT"
  | .patch => "PATCH"
  | .delete => "DELETE"

/-- Reads a name. -/
def ofJson? : Json → Option HttpMethod :=
  Json.choice?
    [("GET", .get), ("POST", .post), ("PUT", .put), ("PATCH", .patch), ("DELETE", .delete)]

end HttpMethod

/-- A name and a value. -/
structure KeyValue where
  key : String
  value : String
  deriving DecidableEq, Repr

namespace KeyValue

def fields : FieldReader KeyValue := do
  let key ← required ["key"] Json.str?
  let value ← withDefault ["value"] "" Json.str?
  return { key, value }

def ofJson? : Json → Option KeyValue := Json.record? fields

def toJson (p : KeyValue) : Json := .object [("key", .str p.key), ("value", .str p.value)]

end KeyValue

/-- The credentials of a call. -/
inductive HttpAuth where
  | none
  | bearer (token : String)
  | basic (username password : String)
  deriving DecidableEq, Repr

namespace HttpAuth

def ofJson? (j : Json) : Option HttpAuth := do
  let (tag, rest) ← j.splitTag? "type"
  match tag with
  | "none" => if rest.isFieldless then some .none else Option.none
  | "bearer" => rest.record? (return .bearer (← required ["token"] Json.str?))
  | "basic" =>
    rest.record? do
      let username ← required ["username"] Json.str?
      let password ← withDefault ["password"] "" Json.str?
      return .basic username password
  | _ => Option.none

def toJson : HttpAuth → Json
  | .none => .object [("type", .str "none")]
  | .bearer token => .object [("type", .str "bearer"), ("token", .str token)]
  | .basic username password =>
    .object [("type", .str "basic"), ("username", .str username), ("password", .str password)]

end HttpAuth

/-- The body of a call. -/
inductive HttpBody where
  | none
  | json (content : String)
  | form (fields : List KeyValue)
  deriving DecidableEq, Repr

namespace HttpBody

def ofJson? (j : Json) : Option HttpBody := do
  let (tag, rest) ← j.splitTag? "type"
  match tag with
  | "none" => if rest.isFieldless then some .none else Option.none
  | "json" => rest.record? (return .json (← required ["content"] Json.str?))
  | "form" =>
    rest.record? (return .form (← withDefault ["fields"] [] (Json.list? KeyValue.ofJson?)))
  | _ => Option.none

def toJson : HttpBody → Json
  | .none => .object [("type", .str "none")]
  | .json content => .object [("type", .str "json"), ("content", .str content)]
  | .form fields =>
    .object [("type", .str "form"), ("fields", .arr (fields.map KeyValue.toJson))]

end HttpBody

/-- A part of the response and the variable that takes it. -/
structure ResponseMapping where
  path : String
  target : String
  deriving DecidableEq, Repr

namespace ResponseMapping

def fields : FieldReader ResponseMapping := do
  let path ← required ["path"] Json.str?
  let target ← required ["variable"] Json.str?
  return ⟨path, target⟩

def ofJson? : Json → Option ResponseMapping := Json.record? fields

def toJson (m : ResponseMapping) : Json :=
  .object [("path", .str m.path), ("variable", .str m.target)]

end ResponseMapping

/-- A call as authored. -/
structure HttpCall where
  method : HttpMethod
  url : String
  auth : HttpAuth
  headers : List KeyValue
  queryParams : List KeyValue
  body : HttpBody
  responseMapping : List ResponseMapping
  timeoutMs : Option UInt64
  deriving DecidableEq, Repr

namespace HttpCall

def fields : FieldReader HttpCall := do
  let method ← withDefault ["method"] .get HttpMethod.ofJson?
  let url ← withDefault ["url"] "" Json.str?
  let auth ← withDefault ["auth"] .none HttpAuth.ofJson?
  let headers ← withDefault ["headers"] [] (Json.list? KeyValue.ofJson?)
  let queryParams ← withDefault ["queryParams"] [] (Json.list? KeyValue.ofJson?)
  let body ← withDefault ["body"] .none HttpBody.ofJson?
  let responseMapping ← withDefault ["responseMapping"] [] (Json.list? ResponseMapping.ofJson?)
  let timeoutMs ← FieldReader.optional ["timeoutMs"] Json.uint64?
  return { method, url, auth, headers, queryParams, body, responseMapping, timeoutMs }

def ofJson? : Json → Option HttpCall := Json.record? fields

def toJson (c : HttpCall) : Json :=
  .object ([("method", .str c.method.name), ("url", .str c.url), ("auth", c.auth.toJson),
    ("headers", .arr (c.headers.map KeyValue.toJson)),
    ("queryParams", .arr (c.queryParams.map KeyValue.toJson)), ("body", c.body.toJson),
    ("responseMapping", .arr (c.responseMapping.map ResponseMapping.toJson))] ++
    Json.member? "timeoutMs" Json.ofUInt64 c.timeoutMs)

end HttpCall

end Dialogue
