import Dialogue.Proofs.Coupling
import Dialogue.Proofs.Delivery.Refusals

/-!
# Two runs of a delivery go the same way

All that the handling of an event asks of conversations, claims and messages concerns the event's
participant, and the identifier of a log entry goes into the entry and nowhere else. So two runs
that are answered the same where a participant of the delivery is concerned, but for the
identifiers of log entries, ask the same and end the same (`Steady`). This is shown function by
function; executing nodes gets there by its contract (`ChainScope.confined`).
-/

namespace Dialogue

instance (r : Request) : Nonempty r.Answer := by
  cases r with
  | newLogId | pause | lock | unlock => exact ⟨default⟩
  | workflowsByToken | workflowsWithEntry => exact ⟨.ok []⟩
  | loadConversation | findMessage | channel | setting => exact ⟨.ok none⟩
  | saveConversation | recordMessage | appendLog => exact ⟨.ok ()⟩
  | claimDay => exact ⟨.ok true⟩
  | send => exact ⟨.ok ""⟩
  | http => exact ⟨.ok ⟨200, []⟩⟩
  | booking q => exact ⟨.error ⟨.getStaff, ""⟩⟩

variable {P : String → Prop} {sameIds : Prop}

/-- The participant that the request is about, if it is about one, is of a kind. -/
def Request.Concerns (P : String → Prop) : Request → Prop
  | .loadConversation key | .lock key | .unlock key => P key.phone
  | .saveConversation c => P c.phone
  | .recordMessage m => P m.phone
  | .appendLog entry => P entry.phone
  | .claimDay c => P c.phone
  | .send _ phone _ => P phone
  | _ => True

def Request.OfLog : Request → Prop
  | .newLogId | .appendLog _ => True
  | _ => False

/-- The request concerns participants of a kind only, and is none of the log. -/
def Request.Confined (P : String → Prop) (r : Request) : Prop := r.Concerns P ∧ ¬ r.OfLog

/-- A conversation that was loaded is one of a participant of the kind. -/
def LoadsOf (P : String → Prop) : Exchange Request.Answer → Prop
  | ⟨.loadConversation _, .ok (some c)⟩ => P c.phone
  | _ => True

/-- Every request has an answer that loads no conversation of anybody else. -/
theorem exists_loadsOf (r : Request) : ∃ a, LoadsOf P ⟨r, a⟩ := by
  obtain ⟨a⟩ : Nonempty r.Answer := inferInstance
  cases r with
  | loadConversation key => exact ⟨.ok none, trivial⟩
  | _ => exact ⟨a, trivial⟩

/-- The exchanges of two runs that go the same way. The identifiers of log entries may differ,
unless the runs are to be exactly the same. -/
inductive Paired (P : String → Prop) (sameIds : Prop) :
    Exchange Request.Answer → Exchange Request.Answer → Prop
  | same {x} (confined : x.1.Confined P) (loads : LoadsOf P x) : Paired P sameIds x x
  | newLogId {a b : ExecutionLogId} (ids : sameIds → a = b) :
    Paired P sameIds ⟨.newLogId, a⟩ ⟨.newLogId, b⟩
  | appendLog {entry : LogEntry} {id : ExecutionLogId} {r : Except RecordError Unit}
    (own : P entry.phone) (ids : sameIds → entry.id = id) :
    Paired P sameIds ⟨.appendLog entry, r⟩ ⟨.appendLog { entry with id := id }, r⟩

/-- Two runs of a program go the same way. -/
abbrev Steady {α : Type} (P : String → Prop) (sameIds : Prop) (p : Service α) (post : α → Prop) :
    Prop :=
  Program.Coupled (Paired P sameIds) (fun a b => b = a ∧ post a) p p

namespace Paired

theorem of_confined {x y : Exchange Request.Answer} (paired : Paired P sameIds x y)
    (confined : x.1.Confined P) : y = x ∧ LoadsOf P x := by
  cases paired with
  | same _ loads => exact ⟨rfl, loads⟩
  | newLogId => exact absurd trivial confined.2
  | appendLog => exact absurd trivial confined.2

/-- Both requests concern participants of the kind. -/
theorem concerns {x y : Exchange Request.Answer} (paired : Paired P sameIds x y) :
    x.1.Concerns P ∧ y.1.Concerns P := by
  cases paired with
  | same confined => exact ⟨confined.1, confined.1⟩
  | newLogId => exact ⟨trivial, trivial⟩
  | appendLog own => exact ⟨own, own⟩

theorem eq_of_sameIds {x y : Exchange Request.Answer} (paired : Paired P True x y) : y = x := by
  cases paired with
  | same => rfl
  | newLogId ids => rw [ids trivial]
  | appendLog own ids => rw [← ids trivial]

theorem answer_eq {i : Request} {r s : i.Answer} (paired : Paired P sameIds ⟨i, r⟩ ⟨i, s⟩)
    (confined : i.Confined P) : s = r :=
  eq_of_heq (Sigma.mk.inj (paired.of_confined confined).1).2

theorem ids_of_newLogId {a b : ExecutionLogId}
    (paired : Paired P sameIds ⟨.newLogId, a⟩ ⟨.newLogId, b⟩) : sameIds → a = b := by
  cases paired with
  | same confined => exact absurd trivial confined.2
  | newLogId ids => exact ids

theorem answer_eq_of_appendLog {a b : LogEntry} {r s : Except RecordError Unit}
    (paired : Paired P sameIds ⟨.appendLog a, r⟩ ⟨.appendLog b, s⟩) : s = r := by
  generalize hx : (⟨.appendLog a, r⟩ : Exchange Request.Answer) = x at paired
  generalize hy : (⟨.appendLog b, s⟩ : Exchange Request.Answer) = y at paired
  cases paired with
  | same confined =>
    subst hx
    exact absurd trivial confined.2
  | newLogId => cases hx
  | appendLog =>
    cases hx
    cases hy
    rfl

end Paired

/-! ## Rules -/

namespace Steady

variable {α β : Type}

/-- What the exchanges of the program are paired with is the same again. -/
theorem of_ensures {p : Service α} {post : α → Prop}
    (hp : p.Ensures (fun x => x.1.Confined P ∧ LoadsOf P x) post) : Steady P sameIds p post :=
  hp.coupled (fun _ hx => .same hx.1 hx.2) fun _ _ _ hx paired => paired.answer_eq hx.1

theorem request {r : Request} (confined : r.Confined P) :
    Steady P sameIds (Service.ask r) fun a => LoadsOf P ⟨r, a⟩ := by
  obtain ⟨a, loads⟩ := exists_loadsOf (P := P) r
  exact Program.coupled_request ⟨a, a, .same confined loads⟩ fun r s paired =>
    ⟨paired.answer_eq confined, (paired.of_confined confined).2⟩

theorem bind {p : Service α} {f : α → Service β} {mid : α → Prop} {post : β → Prop}
    (hp : Steady P sameIds p mid) (hf : ∀ a, mid a → Steady P sameIds (f a) post) :
    Steady P sameIds (p.bind f) post := by
  refine Program.Coupled.bind ?_ hp
  rintro _ a ⟨rfl, ha⟩
  exact hf a ha

end Steady

/-- Two runs of work go the same way, and what it ends well with is of a kind. -/
abbrev SteadyWork {α : Type} (P : String → Prop) (sameIds : Prop) (w : DeliveryWork α)
    (post : α → Prop) : Prop :=
  Steady P sameIds w fun r => ∀ a, r = .ok a → post a

namespace SteadyWork

open DeliveryWork

variable {α β ε : Type} {w : DeliveryWork α} {post : α → Prop}

theorem pure {a : α} (h : post a) : SteadyWork P sameIds (Pure.pure a : DeliveryWork α) post :=
  ⟨rfl, fun _ same => Except.ok.inj same ▸ h⟩

theorem throw {err : DeliveryError} : SteadyWork P sameIds (throw err : DeliveryWork α) post :=
  ⟨rfl, nofun⟩

theorem bind {f : α → DeliveryWork β} {post' : β → Prop} (hw : SteadyWork P sameIds w post)
    (hf : ∀ a, post a → SteadyWork P sameIds (f a) post') :
    SteadyWork P sameIds (w >>= f : DeliveryWork β) post' := by
  rw [bind_eq]
  refine Steady.bind hw fun r hr => ?_
  cases r with
  | ok a => exact hf a (hr a rfl)
  | error err => exact ⟨rfl, nofun⟩

theorem lift {p : Service α} (hp : Steady P sameIds p post) :
    SteadyWork P sameIds (ExceptT.lift p : DeliveryWork α) post :=
  Steady.bind hp fun _ ha => ⟨rfl, fun _ same => Except.ok.inj same ▸ ha⟩

theorem persisting {p : Service (Except ε α)} {text : ε → String}
    (hp : Steady P sameIds p fun r => ∀ a, r = .ok a → post a) :
    SteadyWork P sameIds (persisting p text) post := by
  refine Steady.bind hp fun r hr => ⟨rfl, fun a same => ?_⟩
  cases r with
  | ok b =>
    obtain rfl : b = a := Except.ok.inj same
    exact hr b rfl
  | error err => cases same

/-- Work that is persisted goes the same way, whatever it ends with. -/
theorem persisting_of_steady {p : Service (Except ε α)} {text : ε → String}
    {any : Except ε α → Prop} (hp : Steady P sameIds p any) :
    SteadyWork P sameIds (DeliveryWork.persisting p text) fun _ => True :=
  .persisting (hp.mono fun _ _ h => ⟨h.1, fun _ _ => trivial⟩)

theorem withLock {key : ConversationKey} (own : P key.phone) (hw : SteadyWork P sameIds w post) :
    SteadyWork P sameIds (withLock key w) post := by
  refine Steady.bind (.request (r := .lock key) ⟨own, id⟩) fun _ _ => ?_
  refine Steady.bind hw fun r hr => ?_
  exact Steady.bind (.request (r := .unlock key) ⟨own, id⟩) fun _ _ => ⟨rfl, hr⟩

/-- The identifier of an entry goes into the entry only. -/
theorem log (entry : ExecutionLogId → LogEntry) {ending : DeliveryWork α}
    (own : ∀ id, P (entry id).phone) (renamed : ∀ a b, { entry a with id := b } = entry b)
    (ended : SteadyWork P sameIds ending post) :
    SteadyWork P sameIds (do
      let id ← DeliveryWork.ask .newLogId
      let _ ← DeliveryWork.ask (.appendLog (entry id))
      ending) post := by
  have appended (a b : ExecutionLogId) (ids : sameIds → a = b) :
      Program.Coupled (Paired P sameIds) (fun r s => s = r) (Service.ask (.appendLog (entry a)))
        (Service.ask (.appendLog (entry b))) := by
    have named : (entry a).id = a := (congrArg LogEntry.id (renamed a a)).symm
    rw [← renamed a b]
    exact ⟨⟨.ok (), .ok (), .appendLog (own a) fun same => named.trans (ids same)⟩,
      fun r s paired => paired.answer_eq_of_appendLog⟩
  show Program.Coupled (Paired P sameIds) _
    ((Service.ask .newLogId).bind fun id =>
      (Service.ask (.appendLog (entry id))).bind fun _ => ending)
    ((Service.ask .newLogId).bind fun id =>
      (Service.ask (.appendLog (entry id))).bind fun _ => ending)
  refine Program.Coupled.bind ?_ (Program.coupled_request ⟨default, default, .newLogId fun _ => rfl⟩
    fun a b paired => paired.ids_of_newLogId)
  exact fun a b ids => Program.Coupled.bind (fun _ _ _ => ended) (appended a b ids)

end SteadyWork

/-! ## Chains -/

/-- Executing nodes for a participant concerns no other. -/
def ChainScope.confined (e : ChainScope) (own : P e.facts.phone) : NodeContract e where
  conversation c := P c.phone
  exchange x := x.1.Confined P ∧ LoadsOf P x
  failure _ := True
  advance _ _ h := h
  set _ _ _ h := h
  clear _ h := h
  start _ _ _ h := h
  ask x hx := by
    obtain ⟨q, r⟩ := x
    cases q with
    | recordMessage m =>
      obtain ⟨-, hphone⟩ := hx
      exact ⟨⟨show P m.phone from hphone ▸ own, id⟩, trivial⟩
    | send token phone m => exact ⟨⟨show P phone from hx ▸ own, id⟩, trivial⟩
    | channel | setting | http | booking | pause => exact ⟨⟨trivial, id⟩, trivial⟩
    | _ => exact hx.elim
  save _ _ h := ⟨⟨h, id⟩, trivial⟩
  fail _ _ := trivial

namespace EventScope

open DeliveryWork

variable {e : EventScope} (own : P e.facts.phone)
include own

theorem steady_load (w : Workflow) :
    SteadyWork P sameIds (e.load w) fun found => ∀ c, found = some c → P c.phone := by
  refine .persisting (Program.Coupled.mono ?_ (Steady.request ⟨own, id⟩))
  rintro _ r ⟨rfl, loads⟩
  refine ⟨rfl, ?_⟩
  rintro _ rfl c rfl
  exact loads

theorem steady_loadOrNew (w : Workflow) :
    SteadyWork P sameIds (e.loadOrNew w) fun c => P c.phone := by
  refine (steady_load own w).bind fun found loads => .pure ?_
  cases found with
  | none => exact own
  | some c => exact loads c rfl

omit own in
theorem steady_save {c : Conversation} (hc : P c.phone) :
    SteadyWork P sameIds (save c) fun _ => True :=
  .persisting_of_steady (Steady.request (r := .saveConversation c) ⟨hc, id⟩)

theorem steady_finish (w : Workflow) (report : ChainReport) {c : Conversation} (hc : P c.phone) :
    SteadyWork P sameIds (e.finish w report c) fun _ => True := by
  have logged (ending : DeliveryWork Unit) (ended : SteadyWork P sameIds ending fun _ => True) :=
    SteadyWork.log (fun id => .new id w.id e.facts.phone e.kind e.raw report.responses
      (report.error.map ChainError.message) e.now) (fun _ => own) (fun _ _ => rfl) ended
  obtain ⟨responses, _ | error⟩ := report
  · exact logged _ (steady_save hc)
  · have stopped : SteadyWork P sameIds
        (if error.isPersistence then throw (.persistence error.message) else pure ())
        fun _ => True := by
      split
      · exact .throw
      · exact .pure trivial
    exact logged _ stopped

theorem steady_runChain (w : Workflow) {c : Conversation} (hc : P c.phone) (start : ChainStart) :
    SteadyWork P sameIds (e.runChain w c start) fun _ => True := by
  rw [runChain_eq]
  have chain := ((e.chain w).confined (P := P) own).ensures_run (fun _ => trivial) hc start
  exact (Steady.of_ensures chain).bind fun a ha => steady_finish own w a.1 ha.1

theorem steady_finishBooking (w : Workflow) {c : Conversation} (hc : P c.phone) (node : NodeId)
    (err : BookingError) : SteadyWork P sameIds (e.finishBooking w c node err) fun _ => True :=
  steady_finish own w _ hc

omit own in
theorem steady_booking {α : Type} {c : Conversation} (hc : P c.phone) (work : BookingWork α) :
    SteadyWork P sameIds (booking c work) fun r => P r.2.phone := by
  have asks : Steady P sameIds (Service.ofBooking (work c.context)) fun _ => True :=
    .of_ensures (Program.Ensures.trivial.embed fun _ _ _ => ⟨⟨trivial, id⟩, trivial⟩)
  exact (SteadyWork.lift asks).bind fun _ _ => .pure hc

omit own in
theorem steady_then_true {v : DeliveryWork Unit}
    (hv : SteadyWork P sameIds v fun _ => True) :
    SteadyWork P sameIds (do
      v
      pure true : DeliveryWork Bool) fun _ => True :=
  hv.bind fun _ _ => .pure trivial

/-! ## Texts -/

theorem steady_captureIn (w : Workflow) (text : String) {c : Conversation} (hc : P c.phone)
    (p : BookingProgress) : SteadyWork P sameIds (e.captureIn w text c p) fun _ => True := by
  refine (steady_booking hc _).bind ?_
  rintro ⟨err | _ | step, d⟩ hd
  · exact steady_then_true (steady_finishBooking own w hd p.nodeId err)
  · exact .pure trivial
  · exact steady_then_true (steady_runChain own w (c := e.arrive d) hd _)

theorem steady_capture (text : String) (w : Workflow) :
    SteadyWork P sameIds (e.capture text w) fun _ => True := by
  refine .withLock own ((steady_load own w).bind fun found loads => ?_)
  cases found with
  | none => exact .pure trivial
  | some c =>
    dsimp only
    split
    · exact steady_captureIn own w text (loads c rfl) _
    · exact .pure trivial

theorem steady_startEntry (w : Workflow) :
    SteadyWork P sameIds (e.startEntry w) fun _ => True := by
  unfold startEntry
  split
  · exact .pure trivial
  · exact .withLock own ((steady_loadOrNew own w).bind fun c hc =>
      steady_runChain own w (c := (e.arrive c).clearProgress) hc _)

theorem steady_startAll : ∀ workflows : List Workflow,
    Steady P sameIds (e.startAll workflows) fun _ => True
  | [] => ⟨rfl, trivial⟩
  | w :: r => Steady.bind (steady_startEntry own w) fun _ _ =>
    Steady.bind (steady_startAll r) fun _ _ => ⟨rfl, trivial⟩

theorem steady_startDay (workflows : List Workflow) :
    SteadyWork P sameIds (e.startDay workflows) fun _ => True := by
  unfold startDay
  split
  · exact .pure trivial
  · refine (SteadyWork.lift (steady_startAll own workflows)).bind fun first _ => ?_
    cases first with
    | none => exact .pure trivial
    | some err => exact .throw

omit own in
theorem steady_anyTakes {offer : Workflow → DeliveryWork Bool}
    (offers : ∀ w, SteadyWork P sameIds (offer w) fun _ => True) : ∀ workflows : List Workflow,
      SteadyWork P sameIds (anyTakes offer workflows) fun _ => True
  | [] => .pure trivial
  | w :: rest => by
    refine (offers w).bind fun taken _ => ?_
    cases taken with
    | true => exact .pure trivial
    | false => exact steady_anyTakes offers rest

end EventScope

theorem DayDecision.steady_decide (account : AccountId) {phone : String} (own : P phone)
    (date : Date) :
    Steady P sameIds (DayDecision.decide account phone date) fun _ => True := by
  refine .bind (.request (r := .claimDay _) ⟨own, id⟩) fun claimed _ => ?_
  rcases claimed with err | _ | _
  · exact ⟨rfl, trivial⟩
  · exact ⟨rfl, trivial⟩
  · refine .bind (.request (r := .workflowsWithEntry account) ⟨trivial, id⟩)
      fun found _ => ?_
    cases found <;> exact ⟨rfl, trivial⟩

theorem Ownership.steady_find (quoted : Option String) :
    Steady P sameIds (Ownership.find quoted) fun _ => True := by
  unfold find
  split
  · exact ⟨rfl, trivial⟩
  · refine .bind (.request (r := .findMessage _) ⟨trivial, id⟩) fun found _ => ?_
    cases found <;> exact ⟨rfl, trivial⟩

namespace EventScope

open DeliveryWork

variable {e : EventScope} (own : P e.facts.phone)
include own

theorem steady_handleText (account : AccountId) (workflows : List Workflow) (body : String) :
    SteadyWork P sameIds (e.handleText account workflows body) fun _ => True := by
  refine (steady_anyTakes (steady_capture own body) workflows).bind fun captured _ => ?_
  cases captured with
  | true => exact .pure trivial
  | false =>
    refine (SteadyWork.persisting_of_steady (DayDecision.steady_decide account own _)).bind
      fun decision _ => ?_
    cases decision with
    | inquiry => exact .pure trivial
    | first starting => exact steady_startDay own starting

/-! ## Replies -/

theorem steady_routeByGraph (w : Workflow) (replyId : String) {c : Conversation}
    (hc : P c.phone) : SteadyWork P sameIds (e.routeByGraph w replyId c) fun _ => True := by
  unfold routeByGraph
  split
  · exact .pure trivial
  · exact steady_then_true (steady_runChain own w (c := (e.arrive c).clearProgress) hc _)

theorem steady_routeInBooking (w : Workflow) (replyId : String) {c : Conversation}
    (hc : P c.phone) (p : BookingProgress) :
    SteadyWork P sameIds (e.routeInBooking w replyId c p) fun _ => True := by
  rw [routeInBooking_eq]
  refine (steady_booking hc _).bind ?_
  rintro ⟨err | _ | _ | step, d⟩ hd
  · exact steady_then_true (steady_finishBooking own w hd p.nodeId err)
  · exact steady_routeByGraph own w replyId hd
  · exact (steady_save hd).bind fun _ _ => steady_routeByGraph own w replyId hd
  · exact steady_then_true (steady_runChain own w (c := e.arrive d) hd _)

theorem steady_route (replyId : String) (w : Workflow) :
    SteadyWork P sameIds (e.route replyId w) fun _ => True := by
  refine .withLock own ((steady_loadOrNew own w).bind fun c hc => ?_)
  split
  · exact steady_routeInBooking own w replyId hc _
  · exact steady_routeByGraph own w replyId hc

theorem steady_handleReply (workflows : List Workflow) (record : Option SentMessage)
    (replyId : String) :
    SteadyWork P sameIds (e.handleReply workflows record replyId) fun _ => True := by
  refine (steady_anyTakes (steady_route own replyId) _).bind fun taken _ => ?_
  cases taken <;> exact .pure trivial

end EventScope

namespace ServiceSettings

open DeliveryWork

variable (s : ServiceSettings) (account : AccountId) (workflows : List Workflow)

theorem steady_handleEvent (raw : Json) (now : Instant) : ∀ {event : InboundEvent},
    (∀ phone, event.phone? = some phone → P phone) →
      SteadyWork P sameIds (s.handleEvent account workflows raw now event) fun _ => True
  | .ignorable _, _ => .pure trivial
  | .text event, own => by
    dsimp only [handleEvent]
    split
    · rename_i facts hfacts
      have phone : facts.phone = event.phone := facts?_phone hfacts
      exact EventScope.steady_handleText (phone ▸ own _ rfl) account workflows event.body
    · exact .throw
  | .reply event, own => by
    refine (SteadyWork.persisting_of_steady (Ownership.steady_find _)).bind fun record _ => ?_
    split
    · rename_i facts hfacts
      have phone : facts.phone = event.phone := facts?_phone hfacts
      exact EventScope.steady_handleReply (phone ▸ own _ rfl) workflows record event.replyId
    · exact .throw

theorem steady_handleMessages (receivedAt : Instant) : ∀ (messages : List Json)
    (outcome : DeliveryOutcome),
    (∀ raw ∈ messages, ∀ phone, (InboundEvent.ofJson raw receivedAt).phone? = some phone →
      P phone) →
    SteadyWork P sameIds (s.handleMessages account workflows receivedAt messages outcome)
      fun _ => True
  | [], _, _ => .pure trivial
  | raw :: r, outcome, own => by
    obtain ⟨here, rest⟩ := List.forall_mem_cons.1 own
    refine (s.steady_handleEvent account workflows raw receivedAt here).bind fun next _ => ?_
    exact steady_handleMessages receivedAt r _ rest

theorem steady_handle (d : Delivery) (own : ∀ raw ∈ InboundEvent.messages d.payload, ∀ phone,
    (InboundEvent.ofJson raw d.receivedAt).phone? = some phone → P phone) :
    SteadyWork P sameIds (s.handle d) fun _ => True := by
  rw [handle_eq]
  refine Steady.bind (.request (r := .workflowsByToken _ _) ⟨trivial, id⟩)
    fun listed _ => ?_
  rcases listed with err | _ | ⟨w, ws⟩
  · exact SteadyWork.throw
  · exact SteadyWork.throw
  · exact s.steady_handleMessages d.account (w :: ws) d.receivedAt _ _ own

end ServiceSettings

end Dialogue
