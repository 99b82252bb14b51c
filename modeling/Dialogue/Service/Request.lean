import Dialogue.Booking.Table
import Dialogue.Conversation.Record
import Dialogue.Http.Action
import Dialogue.Message.Failure
import Dialogue.Message.Outbound
import Dialogue.Program

/-!
# What a service asks of its collaborators

A service keeps nothing itself. It asks stores for workflows, conversations, records, settings and
appointments, sends messages and HTTP requests, waits, and takes and leaves the lock of a
conversation. Every request that can fail is answered with a failure or a value.
-/

namespace Dialogue

/-- A request to a collaborator. -/
inductive Request where
  | workflowsByToken (account : AccountId) (token : String)
  | workflowsWithEntry (account : AccountId)
  | loadConversation (key : ConversationKey)
  | saveConversation (conversation : Conversation)
  | recordMessage (message : SentMessage)
  | findMessage (messageId : String)
  | appendLog (entry : LogEntry)
  | claimDay (claim : DayClaim)
  | channel (account : AccountId)
  | setting (setting : Setting)
  | send (token phone : String) (message : OutboundMessage)
  | http (request : HttpRequest)
  | booking (query : BookingQuery)
  | pause (ms : UInt64)
  | newLogId
  | lock (key : ConversationKey)
  | unlock (key : ConversationKey)
  deriving Repr

/-- What a request is answered with. -/
abbrev Request.Answer : Request → Type
  | .workflowsByToken _ _ => Except WorkflowError (List Workflow)
  | .workflowsWithEntry _ => Except WorkflowError (List Workflow)
  | .loadConversation _ => Except ConversationError (Option Conversation)
  | .saveConversation _ => Except ConversationError Unit
  | .recordMessage _ => Except RecordError Unit
  | .findMessage _ => Except RecordError (Option SentMessage)
  | .appendLog _ => Except RecordError Unit
  | .claimDay _ => Except RecordError Bool
  | .channel _ => Except ChannelError (Option Channel)
  | .setting _ => Except SettingError (Option String)
  | .send _ _ _ => Except MessagingError String
  | .http _ => Except HttpFailure HttpResponse
  | .booking query => Except BookingError query.Answer
  | .pause _ => Unit
  | .newLogId => ExecutionLogId
  | .lock _ => Unit
  | .unlock _ => Unit

/-- Work that asks collaborators. -/
abbrev Service := Program Request Request.Answer

namespace Service

/-- Asks a collaborator. -/
def ask (r : Request) : Service r.Answer := Program.request r

/-- Work that asks the store of appointments only. -/
def ofBooking (p : Program BookingQuery (fun q => Except BookingError q.Answer) α) : Service α :=
  p.embed Request.booking fun _ r => r

/-- Work that asks for HTTP requests only. -/
def ofHttp (p : Program HttpRequest (fun _ => Except HttpFailure HttpResponse) α) : Service α :=
  p.embed Request.http fun _ r => r

end Service

/-- What holds for all work of a service. -/
structure ServiceSettings where
  clock : LocalClock
  daysAhead : UInt32
  http : HttpSettings

end Dialogue
