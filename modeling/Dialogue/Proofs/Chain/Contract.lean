import Dialogue.Chain.Run
import Dialogue.Proofs.Work

/-!
# What executing nodes keeps

A node contract says what holds of the conversation of a chain, which exchanges may take place and
which failures may happen, and allows everything that executing a node does. Whatever the node and
the collaborators, executing it keeps the contract (`NodeContract.keeps_execute`); so does a walk
along nodes (`NodeContract.keeps_drive`), where it allows a circle to be stopped. What sending
messages keeps is said apart (`Contract.Sends`), since it asks for less: the conversation stays as
it is and is not saved.
-/

namespace Dialogue

namespace ChainWork

variable {C : Contract ChainError ChainState Request.Answer} {ε α : Type} {post : α → Prop}

theorem keeps_ask {r : Request} (h : ∀ a, C.exchange ⟨r, a⟩) : C.Keeps (ask r) fun _ => True :=
  fun _ hs => .ask fun a => ⟨h a, .done ⟨hs, trivial⟩⟩

theorem keeps_asking {p : Service (Except ε α)} {error : ε → ChainError}
    (hp : p.Ensures C.exchange fun _ => True) (hf : ∀ e, C.failure (error e)) :
    C.Keeps (asking p error) fun _ => True := by
  intro s hs
  refine Program.Ensures.bind hp fun r _ => .done ⟨hs, ?_⟩
  cases r with
  | ok a => trivial
  | error e => exact hf e

theorem keeps_lift {p : Service α} (hp : p.Ensures C.exchange post) : C.Keeps (lift p) post :=
  fun _ hs => Program.Ensures.bind hp fun _ ha => .done ⟨hs, ha⟩

/-- Work of a booking keeps a chain's contract if it keeps one of its own on the context of every
conversation that the chain may hold. -/
theorem keeps_ofBooking {node : NodeId} {w : BookingWork α}
    {B : Conversation → Contract BookingError Context fun q => Except BookingError q.Answer}
    (hw : ∀ c, (B c).Keeps w post)
    (before : ∀ s, C.state s → (B s.conversation).state s.conversation.context)
    (after : ∀ s x, C.state s → (B s.conversation).state x →
      C.state { s with conversation := { s.conversation with context := x } })
    (asks : ∀ c q r, (B c).exchange ⟨q, r⟩ → C.exchange ⟨.booking q, r⟩)
    (fails : ∀ e, C.failure (.booking node (Text.report (BookingError.message e)))) :
    C.Keeps (ofBooking node w) post := by
  intro s hs
  refine Program.Ensures.bind ((hw s.conversation _ (before s hs)).embed
    (asks s.conversation)) fun r hr => .done ⟨after s r.2 hs hr.1, ?_⟩
  obtain ⟨r, x⟩ := r
  cases r with
  | ok a => exact hr.2
  | error e => exact fails e

end ChainWork

/-- The first step of a flow, with nothing selected yet. -/
def BookingProgress.Starting (p : BookingProgress) : Prop :=
  ∃ id, (∃ settings, p = .start id (.book settings) .selectDepartment)
    ∨ ∃ settings, p = .start id (.check settings) .selectBooking

namespace ChainScope

/-- What sending messages of a node may ask. -/
def SendRequest (e : ChainScope) : Request → Prop
  | .recordMessage m => m.workflowId = e.workflow.id ∧ m.phone = e.facts.phone
  | .channel account => account = e.workflow.accountId
  | .send _ phone _ => phone = e.facts.phone
  | .setting _ | .pause _ => True
  | _ => False

/-- What executing a node may ask, saving apart. -/
def NodeRequest (e : ChainScope) : Request → Prop
  | .recordMessage m => m.workflowId = e.workflow.id ∧ m.phone = e.facts.phone
  | .channel account => account = e.workflow.accountId
  | .send _ phone _ => phone = e.facts.phone
  | .booking (.listDepartments account) => account = e.workflow.accountId
  | .booking (.listUpcoming account phone _) =>
    account = e.workflow.accountId ∧ phone = e.facts.phone
  | .setting _ | .http _ | .pause _ => True
  | _ => False

theorem SendRequest.node {e : ChainScope} {r : Request} (h : e.SendRequest r) :
    e.NodeRequest r := by
  unfold SendRequest at h
  split at h
  · exact h
  · exact h
  · exact h
  · trivial
  · trivial
  · exact h.elim

end ChainScope

/-! ## Sending -/

/-- A contract that allows sending messages of a node, which leaves the conversation alone. -/
structure Contract.Sends (e : ChainScope) (C : Contract ChainError ChainState Request.Answer) :
    Prop where
  state : ∀ s t, t.conversation = s.conversation → C.state s → C.state t
  ask : ∀ x, e.SendRequest x.1 → C.exchange x
  fail : ∀ err, (∀ id limit, err ≠ .cycle id limit) → C.failure err

namespace Contract.Sends

open ChainScope ChainWork

variable {e : ChainScope} {C : Contract ChainError ChainState Request.Answer} (S : C.Sends e)
include S

theorem keeps_request {r : Request} (h : e.SendRequest r) :
    C.Keeps (ChainWork.ask r) fun _ => True :=
  keeps_ask fun a => S.ask ⟨r, a⟩ h

theorem ensures_request {r : Request} (h : e.SendRequest r) :
    (Service.ask r).Ensures C.exchange fun _ => True :=
  .ask fun a => ⟨S.ask ⟨r, a⟩ h, .done trivial⟩

theorem keeps_modify {f : ChainState → ChainState}
    (h : ∀ s, (f s).conversation = s.conversation) :
    C.Keeps (modify f : ChainWork PUnit) fun _ => True :=
  .modify fun s hs => S.state s (f s) (h s) hs

theorem keeps_pacing : C.Keeps pacing fun _ => True := by
  unfold pacing
  refine Contract.Keeps.get.bind fun s _ => ?_
  split
  · exact .pure trivial
  · refine (S.keeps_request (r := .setting .messageDelay) trivial).bind fun _ _ => ?_
    refine (S.keeps_modify ?_).bind fun _ _ => ?_
    · exact fun _ => rfl
    · exact .pure trivial

theorem keeps_pace : C.Keeps pace fun _ => True := by
  unfold pace
  refine Contract.Keeps.get.bind fun s _ => ?_
  split
  · exact .pure trivial
  · refine S.keeps_pacing.bind fun delay _ => ?_
    split
    · exact .pure trivial
    · exact S.keeps_request (r := .pause delay) trivial

theorem keeps_token : C.Keeps e.token fun _ => True := by
  unfold token
  refine Contract.Keeps.get.bind fun s _ => ?_
  split
  · exact .pure trivial
  · refine (keeps_asking (S.ensures_request (r := .channel _) rfl)
      fun _ => S.fail _ (by simp)).bind fun _ _ => ?_
    split
    · refine (S.keeps_modify ?_).bind fun _ _ => ?_
      · exact fun _ => rfl
      · exact .pure trivial
    · exact .throw (S.fail _ (by simp))

theorem keeps_send (node : Node) (message : OutboundMessage) :
    C.Keeps (e.send node message) fun _ => True := by
  unfold send
  refine S.keeps_pace.bind fun _ _ => S.keeps_token.bind fun token _ => ?_
  refine (keeps_asking (S.ensures_request (r := .send token _ message) rfl)
    fun _ => S.fail _ (by simp)).bind fun _ _ => ?_
  refine (S.keeps_modify ?_).bind fun _ _ => ?_
  · exact fun _ => rfl
  · exact .pure trivial

theorem keeps_record (node : Node) (messageId : String) :
    C.Keeps (e.record node messageId) fun _ => True := by
  unfold record
  refine (S.keeps_request (r := .recordMessage _) ⟨rfl, rfl⟩).bind fun _ _ => ?_
  exact .pure trivial

theorem keeps_deliver (node : Node) (message : OutboundMessage) :
    C.Keeps (e.deliver node message) fun _ => True := by
  unfold deliver
  refine (S.keeps_send node message).bind fun messageId _ => ?_
  split
  · exact S.keeps_record node messageId
  · exact .pure trivial

theorem keeps_deliverAll (node : Node) : ∀ messages : List OutboundMessage,
    C.Keeps (e.deliverAll node messages) fun _ => True
  | [] => .pure trivial
  | m :: r => (S.keeps_deliver node m).bind fun _ _ => keeps_deliverAll node r

end Contract.Sends

/-- What executing nodes of a scope keeps. -/
structure NodeContract (e : ChainScope) where
  conversation : Conversation → Prop
  exchange : Exchange Request.Answer → Prop
  failure : ChainError → Prop
  advance : ∀ c id, conversation c → conversation (c.advanceTo id e.now)
  set : ∀ c key value, conversation c →
    conversation { c with context := c.context.set key value }
  clear : ∀ c, conversation c → conversation c.clearProgress
  start : ∀ c p, p.Starting → conversation c →
    conversation { c with context := { c.context with booking := some p } }
  ask : ∀ x, e.NodeRequest x.1 → exchange x
  save : ∀ c r, conversation c → exchange ⟨.saveConversation c, r⟩
  fail : ∀ err, (∀ id limit, err ≠ .cycle id limit) → failure err

namespace NodeContract

open ChainScope ChainWork

variable {e : ChainScope} (N : NodeContract e)

/-- The contract of chains. -/
def chain : Contract ChainError ChainState Request.Answer :=
  ⟨fun s => N.conversation s.conversation, N.exchange, N.failure⟩

theorem keeps_request {r : Request} (h : e.NodeRequest r) :
    N.chain.Keeps (ChainWork.ask r) fun _ => True :=
  keeps_ask fun a => N.ask ⟨r, a⟩ h

theorem keeps_save : N.chain.Keeps ChainScope.save fun _ => True := by
  intro s hs
  exact keeps_asking (C := N.chain) (.ask fun a => ⟨N.save _ a hs, .done trivial⟩)
    (fun _ => N.fail _ (by simp)) s hs

theorem keeps_saveAt (node : Node) : N.chain.Keeps (e.saveAt node) fun _ => True :=
  (Contract.Keeps.modify fun s hs => N.advance s.conversation node.id hs).bind fun _ _ =>
    N.keeps_save

/-- Executing nodes of the contract allows sending. -/
theorem sends : N.chain.Sends e where
  state _ t h hs := by
    change N.conversation t.conversation
    rw [h]
    exact hs
  ask x h := N.ask x h.node
  fail := N.fail

theorem keeps_deliverAll (node : Node) (messages : List OutboundMessage) :
    N.chain.Keeps (e.deliverAll node messages) fun _ => True :=
  N.sends.keeps_deliverAll node messages

theorem keeps_deliverStep (node : Node) (step : FlowStep) :
    N.chain.Keeps (e.deliverStep node step) fun _ => True :=
  (N.keeps_saveAt node).bind fun _ _ =>
    (N.keeps_deliverAll node _).bind fun _ _ => .pure trivial

theorem conversation_merge : ∀ (values : Members) (c : Conversation), N.conversation c →
    N.conversation { c with context := c.context.merge values }
  | [], _, h => h
  | v :: r, c, h => conversation_merge r { c with context := c.context.set v.1 v.2 } (N.set c _ _ h)

theorem keeps_callHttp (node : Node) (call : HttpCall) :
    N.chain.Keeps (e.callHttp node call) fun _ => True := by
  unfold callHttp
  refine Contract.Keeps.get.bind fun s _ => ?_
  refine (N.keeps_request (r := .setting .allowedDomains) trivial).bind fun _ _ => ?_
  refine (keeps_lift (Program.Ensures.trivial.embed fun request r _ =>
    N.ask ⟨.http request, r⟩ trivial)).bind fun outcome _ => ?_
  refine (Contract.Keeps.modify fun s hs => ?_).bind fun _ _ => ?_
  · exact N.conversation_merge _ _ (N.set s.conversation _ _ hs)
  · refine (N.keeps_saveAt node).bind fun _ _ => ?_
    exact .pure trivial

/-! ## Starting a booking -/

/-- The contract of a booking on the context of a conversation. -/
def booking (c : Conversation) :
    Contract BookingError Context fun q : BookingQuery => Except BookingError q.Answer where
  state x := N.conversation { c with context := x }
  exchange x := e.NodeRequest (.booking x.1)
  failure _ := True

theorem keeps_query {q : BookingQuery} (c : Conversation) (h : e.NodeRequest (.booking q)) :
    (N.booking c).Keeps (BookingWork.ask q) fun _ => True := by
  intro s hs
  refine .ask fun r => ⟨h, .done ⟨hs, ?_⟩⟩
  cases r <;> trivial

theorem keeps_clear (c : Conversation) : (N.booking c).Keeps BookingWork.clear fun _ => True :=
  .modify fun x hx => N.clear { c with context := x } hx

theorem keeps_keep (c : Conversation) {p : BookingProgress} (h : p.Starting) :
    (N.booking c).Keeps (BookingWork.keep p) fun _ => True :=
  .modify fun x hx => N.start { c with context := x } p h hx

theorem keeps_startBooking (c : Conversation) (id : NodeId) (settings : BookAppointment) :
    (N.booking c).Keeps (e.visit.startBooking id settings) fun _ => True := by
  unfold Visit.startBooking
  refine (N.keeps_clear c).bind fun _ _ => ?_
  refine (N.keeps_query (q := .listDepartments _) c rfl).bind fun departments _ => ?_
  split
  · exact .pure trivial
  · refine (N.keeps_keep c ⟨id, .inl ⟨settings, rfl⟩⟩).bind fun _ _ => ?_
    exact .pure trivial

theorem keeps_startCheck (c : Conversation) (id : NodeId) (settings : CheckBookings) :
    (N.booking c).Keeps (e.visit.startCheck id settings) fun _ => True := by
  unfold Visit.startCheck
  refine (N.keeps_clear c).bind fun _ _ => ?_
  refine (N.keeps_query (q := .listUpcoming _ _ _) c ⟨rfl, rfl⟩).bind fun bookings _ => ?_
  split
  · exact .pure trivial
  · split
    · exact .pure trivial
    · refine (N.keeps_keep c ⟨id, .inr ⟨settings, rfl⟩⟩).bind fun _ _ => ?_
      exact .pure trivial

theorem keeps_booking {id : NodeId} {w : BookingWork FlowStep}
    (hw : ∀ c, (N.booking c).Keeps w fun _ => True) :
    N.chain.Keeps (ofBooking id w) fun _ => True :=
  keeps_ofBooking (C := N.chain) hw (fun _ hs => hs) (fun _ _ _ hx => hx)
    (fun _ q r h => N.ask ⟨.booking q, r⟩ h) fun _ => N.fail _ (by simp)

/-! ## Walking -/

theorem keeps_execute (node : Node) : N.chain.Keeps (e.execute node) fun _ => True := by
  have sent : ∀ next : Option NodeId, N.chain.Keeps (do
      e.sendOwn node
      e.saveAt node
      pure next) fun _ => True := fun next =>
    (N.keeps_deliverAll node _).bind fun _ _ => (N.keeps_saveAt node).bind fun _ _ => .pure trivial
  unfold execute
  split
  · exact sent _
  · exact sent _
  · exact sent _
  · exact sent none
  · exact sent none
  · exact sent none
  · exact sent none
  · exact N.keeps_callHttp node _
  · exact (N.keeps_booking fun c => N.keeps_startBooking c node.id _).bind fun step _ =>
      N.keeps_deliverStep node step
  · exact (N.keeps_booking fun c => N.keeps_startCheck c node.id _).bind fun step _ =>
      N.keeps_deliverStep node step
  · exact .throw (N.fail _ (by simp))

section Cycle

variable (cycle : ∀ id, N.failure (.cycle id e.workflow.graph.nodeCount))
include cycle

theorem keeps_walk : ∀ (budget : Nat) (id : NodeId), N.chain.Keeps (e.walk budget id) fun _ => True
  | 0, id => by
    unfold walk
    split
    · exact .pure trivial
    · exact .throw (cycle id)
  | budget + 1, id => by
    unfold walk
    split
    · exact .pure trivial
    · refine (N.keeps_execute _).bind fun next _ => ?_
      split
      · exact keeps_walk budget _
      · exact .pure trivial

theorem keeps_walkOn (budget : Nat) (next : Option NodeId) :
    N.chain.Keeps (e.walkOn budget next) fun _ => True := by
  cases next with
  | none => exact .pure trivial
  | some id => exact N.keeps_walk cycle budget id

theorem keeps_drive (start : ChainStart) : N.chain.Keeps (e.drive start) fun _ => True := by
  cases start with
  | node id => exact N.keeps_walk cycle _ id
  | entry id =>
    dsimp only [drive]
    split
    · refine (N.keeps_execute _).bind fun _ _ => ?_
      exact .pure trivial
    · exact .pure trivial
  | flowStep id step =>
    dsimp only [drive]
    split
    · exact (N.keeps_deliverStep _ step).bind fun next _ => N.keeps_walkOn cycle _ next
    · exact .pure trivial

/-- A chain that starts with a conversation of the contract ends with one. -/
theorem ensures_run {c : Conversation} (h : N.conversation c) (start : ChainStart) :
    (e.run c start).Ensures N.exchange fun r =>
      N.conversation r.2 ∧ ∀ err, r.1.error = some err → N.failure err := by
  refine Program.Ensures.bind (N.keeps_drive cycle start (.start c) h) ?_
  rintro ⟨r, s⟩ ⟨hs, hr⟩
  refine .done ⟨hs, fun err herr => ?_⟩
  cases r with
  | ok a => cases herr
  | error err' =>
    cases herr
    exact hr

end Cycle

end NodeContract

end Dialogue
