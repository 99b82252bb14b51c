import Dialogue.Delivery.Handle
import Dialogue.Proofs.Marks

/-!
# The entry chains that a delivery starts

Handling a delivery marks every entry chain it starts by a text, with the workflow, the participant
and the time of the text. A mark stands where the chain begins, and without its marks the handling
is that of the delivery (`ServiceSettings.erase_starting`).
-/

namespace Dialogue

open Exchange

/-- The entry chain of a workflow, started by a text that a participant sent at a time. -/
structure EntryStart where
  workflowId : WorkflowId
  phone : String
  timestamp : Instant
  deriving DecidableEq, Repr

/-- A history that marks the entry chains that are started. -/
abbrev StartingHistory : Type := List (Exchange (Marked Request.Answer EntryStart))

/-- A program of a service that marks the entry chains it starts. -/
abbrev StartingService (α : Type) : Type :=
  Program (Request ⊕ EntryStart) (Marked Request.Answer EntryStart) α

/-- Work on a delivery that marks the entry chains it starts. -/
abbrev StartingWork (α : Type) : Type := ExceptT DeliveryError StartingService α

/-- Whether the chain is a workflow's, started by a text that a participant sent on a date. -/
def EntryStart.isOn (clock : LocalClock) (id : WorkflowId) (phone : String) (date : Date)
    (m : EntryStart) : Bool :=
  m.workflowId == id && m.phone == phone && clock.date? m.timestamp == some date

namespace StartingWork

variable {α β : Type}

/-- Work that starts no entry chain. -/
def plain (w : DeliveryWork α) : StartingWork α := Program.among EntryStart w

/-- Marks the start of an entry chain. -/
def mark (m : EntryStart) : StartingWork Unit := .ask (.inr m) fun _ => .done (.ok ())

/-- Works while holding the lock of a conversation. -/
def withLock (key : ConversationKey) (w : StartingWork α) : StartingWork α :=
  ((Service.ask (.lock key)).among EntryStart).bind fun _ => Program.bind w fun r =>
    ((Service.ask (.unlock key)).among EntryStart).bind fun _ => .done r

/-- The work without its marks. -/
def erase (w : StartingWork α) : DeliveryWork α := Program.erase w

theorem erase_plain (w : DeliveryWork α) : (plain w).erase = w := Program.erase_among w

theorem erase_bind (w : StartingWork α) (f : α → StartingWork β) :
    (w >>= f : StartingWork β).erase = w.erase >>= fun a => (f a).erase := by
  refine (Program.erase_bind _ w).trans (congrArg (Program.bind w.erase) (funext ?_))
  rintro (err | a) <;> rfl

theorem erase_withLock (key : ConversationKey) (w : StartingWork α) :
    (withLock key w).erase = DeliveryWork.withLock key w.erase := by
  refine congrArg (Program.ask (Request.lock key)) (funext fun _ => ?_)
  exact Program.erase_bind _ w

end StartingWork

namespace EventScope

open StartingWork

variable (e : EventScope)

/-- The start of a workflow's entry chain by the event. -/
def start (w : Workflow) : EntryStart := ⟨w.id, e.facts.phone, e.facts.timestamp⟩

/-- Starts a workflow at its entry node, and marks the start of the chain. -/
def startingEntry (w : Workflow) : StartingWork Unit :=
  match w.entryNodeId with
  | none => pure ()
  | some entry =>
    withLock (e.key w) do
      let c ← plain (e.loadOrNew w)
      mark (e.start w)
      plain (e.runChain w (e.arrive c).clearProgress (.entry entry))

/-- Starts workflows at their entry nodes, with marks. -/
def startingAll : List Workflow → StartingService (Option DeliveryError)
  | [] => pure none
  | w :: r => do
    let result ← (e.startingEntry w).run
    let later ← startingAll r
    pure (match result with
      | .error err => some err
      | .ok _ => later)

/-- Handles the first text of a day, with marks. -/
def startingDay (workflows : List Workflow) : StartingWork DeliveryOutcome := do
  if workflows.isEmpty then
    pure .notHandled
  else
    match ← ExceptT.lift (e.startingAll workflows) with
    | some err => throw (.persistence (Text.report err.message))
    | none => pure .ok

/-- Handles a text, with marks. -/
def startingText (account : AccountId) (workflows : List Workflow) (body : String) :
    StartingWork DeliveryOutcome := do
  if ← plain (anyTakes (e.capture body) workflows) then
    pure .captured
  else
    let decision ← plain (DeliveryWork.persisting
      (DayDecision.decide account e.facts.phone e.facts.localDate)
      fun err => Text.report err.message)
    match decision with
    | .inquiry => pure .inquiry
    | .first starting => e.startingDay starting

theorem erase_startingEntry (w : Workflow) : (e.startingEntry w).erase = e.startEntry w := by
  unfold startingEntry startEntry
  cases w.entryNodeId with
  | none => rfl
  | some entry =>
    dsimp only
    rw [erase_withLock, erase_bind, erase_plain]
    refine congrArg (fun f => DeliveryWork.withLock (e.key w) (e.loadOrNew w >>= f)) (funext ?_)
    intro c
    exact erase_plain _

theorem erase_startingAll : ∀ workflows : List Workflow,
    (e.startingAll workflows).erase = e.startAll workflows
  | [] => rfl
  | w :: r => by
    refine (Program.erase_bind _ (e.startingEntry w)).trans ?_
    rw [show Program.erase (e.startingEntry w) = e.startEntry w from e.erase_startingEntry w]
    refine congrArg (Program.bind (e.startEntry w)) (funext fun result => ?_)
    refine (Program.erase_bind _ (e.startingAll r)).trans ?_
    rw [erase_startingAll r]
    rfl

theorem erase_startingDay (workflows : List Workflow) :
    (e.startingDay workflows).erase = e.startDay workflows := by
  unfold startingDay startDay
  split
  · rfl
  · rw [erase_bind]
    have lifted : StartingWork.erase (ExceptT.lift (e.startingAll workflows))
        = ExceptT.lift (e.startAll workflows) := by
      refine (Program.erase_bind _ (e.startingAll workflows)).trans ?_
      rw [erase_startingAll]
      rfl
    rw [lifted]
    refine congrArg (ExceptT.lift (e.startAll workflows) >>= ·) (funext fun failed => ?_)
    cases failed <;> rfl

theorem erase_startingText (account : AccountId) (workflows : List Workflow) (body : String) :
    (e.startingText account workflows body).erase = e.handleText account workflows body := by
  unfold startingText handleText
  rw [erase_bind, erase_plain]
  refine congrArg (anyTakes (e.capture body) workflows >>= ·) (funext fun taken => ?_)
  cases taken with
  | true => rfl
  | false =>
    refine (erase_bind _ _).trans ?_
    rw [erase_plain]
    refine congrArg (DeliveryWork.persisting (DayDecision.decide _ _ _) _ >>= ·) (funext ?_)
    rintro (starting | _)
    · exact e.erase_startingDay starting
    · rfl

end EventScope

namespace ServiceSettings

open StartingWork

variable (s : ServiceSettings)

/-- Handles an event, with marks. -/
def startingEvent (account : AccountId) (workflows : List Workflow) (raw : Json) (now : Instant) :
    InboundEvent → StartingWork DeliveryOutcome
  | .text event =>
    match s.clock.facts? event.phone (some event.body) event.timestamp with
    | some facts =>
      EventScope.startingText ⟨s, facts, .text, raw, now⟩ account workflows event.body
    | none => throw .outOfCalendar
  | event => plain (s.handleEvent account workflows raw now event)

/-- Handles messages in order, after an outcome, with marks. -/
def startingMessages (account : AccountId) (workflows : List Workflow) (receivedAt : Instant) :
    List Json → DeliveryOutcome → StartingWork DeliveryOutcome
  | [], outcome => pure outcome
  | raw :: r, outcome => do
    let next ← s.startingEvent account workflows raw receivedAt (.ofJson raw receivedAt)
    startingMessages account workflows receivedAt r (outcome.merge next)

/-- Handles a delivery, with marks. -/
def starting (d : Delivery) : StartingWork DeliveryOutcome := do
  let workflows ← plain (DeliveryWork.persisting
    (Service.ask (.workflowsByToken d.account d.token)) fun err => Text.report err.message)
  if workflows.isEmpty then
    throw .unauthorized
  else
    s.startingMessages d.account workflows d.receivedAt (InboundEvent.messages d.payload) .ignored

theorem erase_startingEvent (account : AccountId) (workflows : List Workflow) (raw : Json)
    (now : Instant) (event : InboundEvent) :
    (s.startingEvent account workflows raw now event).erase
      = s.handleEvent account workflows raw now event := by
  cases event with
  | text event =>
    dsimp only [startingEvent, handleEvent]
    cases s.clock.facts? event.phone (some event.body) event.timestamp with
    | some facts => exact EventScope.erase_startingText _ account workflows event.body
    | none => rfl
  | _ => exact erase_plain _

theorem erase_startingMessages (account : AccountId) (workflows : List Workflow)
    (receivedAt : Instant) : ∀ (messages : List Json) (outcome : DeliveryOutcome),
      (s.startingMessages account workflows receivedAt messages outcome).erase
        = s.handleMessages account workflows receivedAt messages outcome
  | [], _ => rfl
  | raw :: r, outcome => by
    unfold startingMessages handleMessages
    rw [erase_bind, erase_startingEvent]
    exact congrArg (s.handleEvent account workflows raw receivedAt _ >>= ·)
      (funext fun next => erase_startingMessages account workflows receivedAt r _)

theorem erase_starting (d : Delivery) : (s.starting d).erase = s.handle d := by
  unfold starting handle
  rw [erase_bind, erase_plain]
  refine congrArg (DeliveryWork.persisting (Service.ask (.workflowsByToken _ _)) _ >>= ·)
    (funext fun workflows => ?_)
  split
  · rfl
  · exact s.erase_startingMessages d.account workflows d.receivedAt _ _

end ServiceSettings

end Dialogue
