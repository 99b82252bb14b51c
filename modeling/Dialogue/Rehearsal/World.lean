import Dialogue.Rehearsal.Bookings
import Dialogue.Service.Request

/-!
# A rehearsed service

Every collaborator of a service in memory, behind faults. The provider accepts messages and numbers
them, the transport gives one reply to every request, pauses pass at once, and what was sent,
called and done is kept.
-/

namespace Dialogue

/-- A message that the provider accepted. -/
structure Accepted where
  id : String
  token : String
  phone : String
  message : OutboundMessage
  deriving Repr

def Accepted.toJson (a : Accepted) : Json :=
  .object [("id", .str a.id), ("token", .str a.token), ("to", .str a.phone),
    (a.message.kind, a.message.content)]

/-- The collaborators of a rehearsed service and what they saw. -/
structure World where
  workflows : WorkflowList
  conversations : ConversationTable
  messages : SentMessageTable
  logs : List LogEntry
  claims : List DayClaim
  channels : ChannelList
  settings : List (String × String)
  reply : Except HttpFailure HttpResponse
  stage : BookingStage
  sent : List Accepted
  calls : List HttpRequest
  elapsed : Nat

namespace World

/-- A world without anything in it. -/
def empty : World where
  workflows := []
  conversations := []
  messages := []
  logs := []
  claims := []
  channels := []
  settings := []
  reply := .ok ⟨200, Utf8.encodeText "\x7b\x7d"⟩
  stage := .empty
  sent := []
  calls := []
  elapsed := 0

/-- Notes what was done. -/
def note (w : World) (e : TraceEntry) : World :=
  { w with stage := { w.stage with trace := w.stage.trace ++ [e] } }

/-- Whether an operation fails now, and the world afterwards. -/
def strike (w : World) (name : String) : Bool × World :=
  let (struck, faults) := w.stage.faults.strike name
  (struck, { w with stage := { w.stage with faults := faults } })

/-- Fails by a fault or goes on. -/
def guarded (w : World) (name : String) (error : ε) (go : World → α × World) :
    Except ε α × World :=
  let (struck, w) := w.strike name
  if struck then (.error error, w) else ((.ok (go w).1), (go w).2)

/-- Gives a setting a value. -/
def set (w : World) (key value : String) : World :=
  { w with settings := (key, value) :: w.settings.filter fun p => p.1 != key }

/-- Claims a day that nobody has claimed. -/
def claim (w : World) (c : DayClaim) : Bool × World :=
  if w.claims.contains c then (false, w.note (.claim c.date false))
  else (true, { w with claims := w.claims ++ [c] }.note (.claim c.date true))

/-- Saves a conversation. -/
def save (w : World) (c : Conversation) : Except ConversationError Unit × World :=
  let (struck, w) := w.strike "save"
  if struck then
    (.error (.storage "injected"), w.note (.saveFailed c.workflowId c.currentNodeId))
  else
    (.ok (), { w with conversations := w.conversations.save c }.note
      (.save c.workflowId c.currentNodeId))

/-- The identifier of the next message. -/
def nextMessageId (w : World) : String := "wamid.out." ++ toString (w.sent.length + 1)

/-- Accepts a message. -/
def accept (w : World) (token phone : String) (m : OutboundMessage) :
    Except MessagingError String × World :=
  let (struck, w) := w.strike "send"
  if struck then (.error (.provider 503 "provider unavailable"), w.note (.sendFailed m.kind))
  else
    let accepted : Accepted := ⟨w.nextMessageId, token, phone, m⟩
    (.ok accepted.id, { w with sent := w.sent ++ [accepted] }.note (.send accepted.id))

/-- The channel of an account, which a fault makes unusable. -/
def channel? (w : World) (account : AccountId) : Option Channel × World :=
  match w.channels.active? account with
  | none => (none, w)
  | some c =>
    let (struck, w) := w.strike "channel_unusable"
    (some (if struck then { c with isAuthorized := false } else c), w)

/-- Answers a request. -/
def answer (now : Instant) : (r : Request) → World → r.Answer × World
  | .workflowsByToken account token, w =>
    w.guarded "workflows" (.storage account "injected") fun w =>
      (w.workflows.byToken account token, w)
  | .workflowsWithEntry account, w =>
    w.guarded "entries" (.storage account "injected") fun w => (w.workflows.withEntry account, w)
  | .loadConversation key, w =>
    w.guarded "load" (.storage "injected") fun w => (w.conversations.find? key, w)
  | .saveConversation c, w => w.save c
  | .recordMessage m, w =>
    w.guarded "record" (.storage .sentMessage "injected") fun w =>
      ((), { w with messages := w.messages.record m }.note (.record m.messageId))
  | .findMessage id, w =>
    w.guarded "find" (.storage .sentMessage "injected") fun w => (w.messages.find? id, w)
  | .appendLog e, w =>
    w.guarded "log" (.storage .executionLog "injected") fun w =>
      ((), { w with logs := w.logs ++ [e] }.note (.log e.workflowId e.status))
  | .claimDay c, w => w.guarded "claim" (.storage .dailyClaim "injected") fun w => w.claim c
  | .channel account, w => w.guarded "channel" ⟨"injected"⟩ fun w => w.channel? account
  | .setting s, w =>
    w.guarded "setting" ⟨s.key, "injected"⟩ fun w => (w.settings.lookup s.key, w)
  | .send token phone m, w => w.accept token phone m
  | .http r, w => (w.reply, { w with calls := w.calls ++ [r] }.note (.http r.url.text))
  | .booking q, w =>
    let (r, stage) := w.stage.answer now q
    (r, { w with stage := stage })
  | .pause ms, w => ((), { w with elapsed := w.elapsed + ms.toNat })
  | .newLogId, w => (⟨.ofParts 0 (w.logs.length + 1)⟩, w)
  | .lock _, w => ((), w)
  | .unlock _, w => ((), w)

/-- Runs work of a service. -/
def run (now : Instant) (p : Service α) (w : World) : α × World := Program.run (answer now) p w

end World

end Dialogue
