import Dialogue.Http.Action
import Dialogue.Http.Wire
import Dialogue.Json.Reader
import Dialogue.Json.Record

/-!
# Rehearsed replies

What a rehearsed transport answers to a request, and what a rehearsed server sends: a reply is
written as an object, of which every member may be left out. A server gives its reply whole or in
chunks, with a declared length that need not be true, or gives none at all.
-/

namespace Dialogue

namespace Reply

/-- The bytes of pairs of hexadecimal digits. -/
def hexBytes : List Char → List UInt8
  | a :: b :: r =>
    .ofNat (((Json.hexValue? a).getD 0) * 16 + (Json.hexValue? b).getD 0) :: hexBytes r
  | _ => []

/-- A number of a reply. -/
def number (key : String) (standard : Nat) (j : Json) : Nat :=
  (((j.get? key).bind (Json.integer? .unsigned64)).map Int.toNat).getD standard

/-- A text of a reply. -/
def text? (key : String) (j : Json) : Option String := (j.get? key).bind Json.str?

/-- Whether a member of a reply is set. -/
def isSet (key : String) (j : Json) : Bool := (j.get? key).bind Json.bool? == some true

/-- The body of a reply: a document, bytes in hexadecimal digits, or a text. -/
def body (j : Json) : List UInt8 :=
  match j.get? "body_json", text? "body_hex" j with
  | some v, _ => Utf8.encodeText v.render
  | none, some digits => hexBytes digits.toList
  | none, none => Utf8.encodeText ((text? "body" j).getD "")

/-- What a transport answers. -/
def ofTransport (j : Json) : Except HttpFailure HttpResponse :=
  match text? "error" j with
  | some "timeout" => .error (.timeout (.ofNat (number "timeout_ms" 0 j)))
  | some "redirect" => .error (.redirect (number "status" 0 j))
  | some "too_large" => .error (.tooLarge (number "limit_bytes" 0 j))
  | some _ => .error (.failed ((text? "details" j).getD ""))
  | none => .ok ⟨number "status" 200 j, body j⟩

end Reply

/-- How a server answers. -/
inductive Answering where
  | whole (length : Option Nat)
  | chunked
  | closing
  | hanging
  deriving DecidableEq, Repr

/-- The reply of a server. -/
structure ServerReply where
  status : Nat
  location : Option String
  body : List UInt8
  answering : Answering
  deriving Repr

namespace ServerReply

/-- Reads the way a server answers. -/
def answeringOf (j : Json) : Answering :=
  if Reply.isSet "close" j then .closing
  else if Reply.isSet "hang" j then .hanging
  else if Reply.isSet "chunked" j then .chunked
  else .whole (((j.get? "length").bind (Json.integer? .unsigned64)).map Int.toNat)

/-- The place that a header of a reply names. -/
def locationOf (j : Json) : Option String :=
  ((j.get? "headers").bind (Json.list? pairOfJson?)).bind fun headers =>
    (headers.find? fun h => h.1.toLower == "location").map Prod.snd

/-- Reads the reply of a server. -/
def ofJson (j : Json) : ServerReply :=
  ⟨Reply.number "status" 200 j, locationOf j, Reply.body j, answeringOf j⟩

/-- The size of a chunk. -/
def chunkSize : Nat := 100

/-- Cuts bytes into chunks, as many as there may be. -/
def chunks : Nat → List UInt8 → List (List UInt8)
  | _, [] => []
  | 0, bytes => [bytes]
  | n + 1, bytes => bytes.take chunkSize :: chunks n (bytes.drop chunkSize)

/-- Whether a response of a status never has a body. -/
def isBodiless (status : Nat) : Bool := status == 101 || status == 204 || status == 304

/-- Whether a response of a status only announces another one, which a server that answers once
does not send. -/
def isInterim (status : Nat) : Bool := 100 ≤ status && status < 200 && status != 101

/-- What arrives of a reply; a status without a body leaves the body out. -/
def arrival (r : ServerReply) (declared : Option Nat) (chunks : List (List UInt8))
    (ending : Ending) : Reception :=
  if isInterim r.status then .closed
  else if isBodiless r.status then .arrived ⟨r.status, r.location, none, [], .complete⟩
  else .arrived ⟨r.status, r.location, declared, chunks, ending⟩

/-- What becomes of a request that the server replies to. Of a body whose length is declared no
more than the length arrives, and less than it only if the connection breaks. -/
def reception (r : ServerReply) : Reception :=
  match r.answering with
  | .closing => .closed
  | .hanging => .silent
  | .whole length =>
    let declared := length.getD r.body.length
    r.arrival declared [r.body.take declared]
      (if r.body.length < declared then .broken else .complete)
  | .chunked => r.arrival none (chunks r.body.length r.body) .complete

/-- Runs a program that sends requests to the server, and tells which the server saw. -/
def run (r : ServerReply) (p : Program WireRequest (fun _ => Reception) α) :
    α × List WireRequest :=
  Program.run (fun wire seen => (r.reception, seen ++ [wire])) p []

end ServerReply

end Dialogue
