import Dialogue.Proofs.Delivery.Routing

/-!
# On behalf of a workflow

Whatever is asked while a reply is offered to a workflow serves the workflow (`serves_routed`): it
takes and leaves no lock, and what it logs, records and saves is the workflow's. So the lock that is
held tells on behalf of which workflow something is done. If a reply is offered to one workflow
only, everything is done on its behalf (`onBehalf_of_offered`); else at most one workflow runs a
chain, and those in front of it passed the reply on (`oneChain_of_offered`).
-/

namespace Dialogue

namespace Request

/-- The requests that take or leave a lock. -/
def Locks : Request → Prop
  | .lock _ | .unlock _ => True
  | _ => False

/-- The requests that store or change something or reach somebody. -/
def Acts : Request → Prop
  | .saveConversation _ | .appendLog _ | .recordMessage _ | .send _ _ _ | .http _
  | .booking _ => True
  | _ => False

/-- The requests by which a chain and its log are noticed. -/
def OfChain : Request → Prop
  | .appendLog _ | .recordMessage _ | .send _ _ _ | .http _ => True
  | _ => False

/-- What a request logs or records is a workflow's, and a conversation that it saves is one of a
workflow of some kind. -/
def Names (id : WorkflowId) (kind : WorkflowId → Prop) : Request → Prop
  | .saveConversation c => kind c.workflowId
  | .appendLog entry => entry.workflowId = id
  | .recordMessage m => m.workflowId = id
  | _ => True

theorem not_acts_of_locks {r : Request} (h : r.Locks) : ¬ r.Acts := by
  cases r <;> first | exact h.elim | exact id

theorem not_ofChain_of_locks {r : Request} (h : r.Locks) : ¬ r.OfChain := by
  cases r <;> first | exact h.elim | exact id

end Request

/-- The lock that is held after an exchange. -/
def lockAfter (held : Option ConversationKey) (x : Exchange Request.Answer) :
    Option ConversationKey :=
  match x.1 with
  | .lock key => some key
  | .unlock _ => none
  | _ => held

/-- An exchange that does something does it on behalf of a workflow: under a lock of the workflow's,
and under no other workflow's name. -/
def OnBehalf (id : WorkflowId) (held : Option ConversationKey) (x : Exchange Request.Answer) :
    Prop :=
  x.1.Acts → (∃ key, held = some key ∧ key.workflowId = id) ∧ x.1.Names id (· = id)

/-- An exchange of a chain is one of the workflow that took the reply of a participant. -/
def OfTaker (phone : String) (taker : Option Workflow) (held : Option ConversationKey)
    (x : Exchange Request.Answer) : Prop :=
  x.1.OfChain → ∃ w, taker = some w ∧ held = some ⟨w.id, phone⟩ ∧ x.1.Names w.id fun _ => True

/-- A conversation that is loaded is one of the key. -/
def Keyed (x : Exchange Request.Answer) : Prop :=
  ∀ key c, x = ⟨.loadConversation key, .ok (some c)⟩ → c.key = key

/-- At most one of some workflows runs a chain for a reply, and the graphs of those in front of it
lead the reply nowhere. -/
def OneChain (phone replyId : String) (workflows : List Workflow) (h : History) : Prop :=
  ∃ passed taker later, workflows = passed ++ (taker.toList ++ later)
    ∧ (∀ w ∈ passed, w.graph.routeReply? replyId = none)
    ∧ Along lockAfter (OfTaker phone taker) none h

/-! ## What serving a workflow asks -/

/-- An exchange between the lock and the unlock of a workflow's conversation. -/
def Serves (id : WorkflowId) (kind : WorkflowId → Prop) (x : Exchange Request.Answer) : Prop :=
  ¬ x.1.Locks ∧ x.1.Names id kind

/-- Executing nodes serves the workflow. -/
def ChainScope.serving (e : ChainScope) (kind : WorkflowId → Prop) : NodeContract e where
  conversation c := kind c.workflowId
  exchange := Serves e.workflow.id kind
  failure _ := True
  advance _ _ h := h
  set _ _ _ h := h
  clear _ h := h
  start _ _ _ h := h
  ask x hx := by
    obtain ⟨q, r⟩ := x
    cases q with
    | recordMessage m => exact ⟨id, hx.1⟩
    | lock key => exact hx.elim
    | unlock key => exact hx.elim
    | saveConversation c => exact hx.elim
    | appendLog entry => exact hx.elim
    | _ => exact ⟨id, trivial⟩
  save _ _ h := ⟨id, h⟩
  fail _ _ := trivial

theorem serves_append {id : WorkflowId} {kind : WorkflowId → Prop} {g₁ g₂ : History}
    (h₁ : ∀ x ∈ g₁, Serves id kind x) (h₂ : ∀ x ∈ g₂, Serves id kind x) :
    ∀ x ∈ g₁ ++ g₂, Serves id kind x :=
  fun x hx => (List.mem_append.1 hx).elim (h₁ x) (h₂ x)

theorem serves_inService {id : WorkflowId} {kind : WorkflowId → Prop}
    {calls : List BookingExchange} :
    ∀ x ∈ calls.map BookingExchange.inService, Serves id kind x := by
  intro x hx
  obtain ⟨y, -, rfl⟩ := List.mem_map.1 hx
  exact ⟨False.elim, trivial⟩

namespace EventScope

variable {e : EventScope} {replyId : String} {w : Workflow} {kind : WorkflowId → Prop}

theorem serves_runChain {c : Conversation} {start : ChainStart} (hc : kind c.workflowId)
    {g : History} {r : Except DeliveryError Unit} (run : Program.Runs (e.runChain w c start) g r) :
    ∀ x ∈ g, Serves w.id kind x := by
  have hid : ∀ r, Serves w.id kind ⟨.newLogId, r⟩ := fun _ => ⟨False.elim, trivial⟩
  have hlog : ∀ entry r, entry.workflowId = w.id → Serves w.id kind ⟨.appendLog entry, r⟩ :=
    fun _ _ h => ⟨False.elim, h⟩
  have asks := e.asks_runChain (c := c) ((e.chain w).serving kind) (fun _ => trivial) hid hlog
  exact (asks hc start g r run).1

theorem serves_finishBooking {c : Conversation} {node : NodeId} {err : BookingError}
    (hc : kind c.workflowId) {g : History} {r : Except DeliveryError Unit}
    (run : Program.Runs (e.finishBooking w c node err) g r) : ∀ x ∈ g, Serves w.id kind x := by
  have asks : Asks (Serves w.id kind) (e.finishBooking w c node err) :=
    e.asks_finish w _ (fun _ => ⟨False.elim, trivial⟩) (fun _ _ h => ⟨False.elim, h⟩)
      fun _ => ⟨False.elim, hc⟩
  exact (asks g r run).1

theorem serves_declined {c d : Conversation} (hc : kind c.workflowId) {g : History}
    (declined : e.Declined replyId w c g d) :
    (∀ x ∈ g, Serves w.id kind x) ∧ kind d.workflowId := by
  cases declined with
  | idle hp => exact ⟨List.forall_mem_nil _, hc⟩
  | notForFlow p calls x hp run => exact ⟨serves_inService, hc⟩
  | rejected p calls x hp run =>
    refine ⟨serves_append serves_inService fun y hy => ?_, hc⟩
    rw [List.mem_singleton.1 hy]
    exact ⟨False.elim, hc⟩

theorem serves_taken {c : Conversation} (hc : kind c.workflowId) {g : History}
    {r : Except DeliveryError Unit} (taken : e.Taken replyId w c g r) :
    ∀ x ∈ g, Serves w.id kind x := by
  cases taken with
  | handled p calls x step g r hp run chain =>
    have chained := serves_runChain (c := e.arrive { c with context := x }) hc chain
    exact serves_append serves_inService chained
  | failed p calls x err g r hp run log =>
    have logged := serves_finishBooking (c := { c with context := x }) hc log
    exact serves_append serves_inService logged
  | routed asked d rule edge g r declined route chain =>
    obtain ⟨serves, hd⟩ := serves_declined hc declined
    exact serves_append serves (serves_runChain (c := (e.arrive d).clearProgress) hd chain)

/-- Whatever offering a reply to a workflow comes to, it serves the workflow. -/
theorem serves_routed {g : History} {r : Except DeliveryError Bool}
    (hfound : ∀ loaded, ⟨.loadConversation (e.key w), .ok loaded⟩ ∈ g →
      kind (e.found w loaded).workflowId)
    (routed : e.Routed replyId w g r) : ∀ x ∈ g, Serves w.id kind x := by
  cases routed with
  | unread err =>
    intro x hx
    rw [List.mem_singleton.1 hx]
    exact ⟨False.elim, trivial⟩
  | unsaved loaded p calls x err hp run =>
    have hc := hfound loaded List.mem_cons_self
    have saved : ∀ y ∈ [(⟨.saveConversation { e.found w loaded with context := x }, .error err⟩ :
        Exchange Request.Answer)], Serves w.id kind y := by
      intro y hy
      rw [List.mem_singleton.1 hy]
      exact ⟨False.elim, hc⟩
    exact List.forall_mem_cons.2 ⟨⟨False.elim, trivial⟩, serves_append serves_inService saved⟩
  | passed loaded asked d declined unrouted =>
    have hc := hfound loaded List.mem_cons_self
    exact List.forall_mem_cons.2 ⟨⟨False.elim, trivial⟩, (serves_declined hc declined).1⟩
  | taken loaded g r taken =>
    have hc := hfound loaded List.mem_cons_self
    exact List.forall_mem_cons.2 ⟨⟨False.elim, trivial⟩, serves_taken hc taken⟩

/-! ## Under the lock -/

/-- Without locks, what is held stays held. -/
theorem along_of_unlocked {ok : Option ConversationKey → Exchange Request.Answer → Prop}
    {held : Option ConversationKey} : ∀ {g : History}, (∀ x ∈ g, ¬ x.1.Locks) →
      (∀ x ∈ g, ok held x) → Along lockAfter ok held g ∧ g.foldl lockAfter held = held
  | [], _, _ => ⟨trivial, rfl⟩
  | x :: g, hl, hok => by
    obtain ⟨hx, hg⟩ := List.forall_mem_cons.1 hl
    obtain ⟨okx, okg⟩ := List.forall_mem_cons.1 hok
    have kept : lockAfter held x = held := by
      obtain ⟨q, r⟩ := x
      cases q <;> first | rfl | exact absurd trivial hx
    obtain ⟨along, last⟩ := along_of_unlocked hg okg
    refine ⟨⟨okx, ?_⟩, ?_⟩
    · rwa [kept]
    · rwa [List.foldl_cons, kept]

/-- A history under a lock is within what is allowed under the lock, and leaves it. -/
theorem along_locked {ok : Option ConversationKey → Exchange Request.Answer → Prop}
    (quiet : ∀ held x, x.1.Locks → ok held x) {g : History} (hl : ∀ x ∈ g, ¬ x.1.Locks)
    (hok : ∀ x ∈ g, ok (some (e.key w)) x) :
    Along lockAfter ok none (e.locked w g) ∧ (e.locked w g).foldl lockAfter none = none := by
  obtain ⟨along, last⟩ := along_of_unlocked hl hok
  unfold locked
  refine ⟨⟨quiet _ _ trivial, along_append.2 ⟨along, quiet _ _ trivial, trivial⟩⟩, ?_⟩
  rw [List.foldl_cons, List.foldl_append]
  rfl

/-! ## Offering a reply -/

theorem found_workflowId {g : History} (keyed : ∀ x ∈ g, Keyed x) (loaded : Option Conversation)
    (hg : ⟨.loadConversation (e.key w), .ok loaded⟩ ∈ g) :
    (e.found w loaded).workflowId = w.id := by
  cases loaded with
  | none => rfl
  | some c => exact congrArg ConversationKey.workflowId (keyed _ hg _ _ rfl)

theorem onBehalf_of_routed {g : History} {r : Except DeliveryError Bool}
    (keyed : ∀ x ∈ g, Keyed x) (routed : e.Routed replyId w g r) :
    Along lockAfter (OnBehalf w.id) none (e.locked w g)
      ∧ (e.locked w g).foldl lockAfter none = none := by
  have serves : ∀ x ∈ g, Serves w.id (· = w.id) x :=
    serves_routed (found_workflowId keyed) routed
  refine along_locked (fun held x hx ha => absurd ha (Request.not_acts_of_locks hx))
    (fun x hx => (serves x hx).1) fun x hx _ => ?_
  exact ⟨⟨e.key w, rfl, rfl⟩, (serves x hx).2⟩

/-- If a reply is offered to one workflow only, everything is done on behalf of the workflow. -/
theorem onBehalf_of_offered {id : WorkflowId} {workflows : List Workflow} {h : History}
    {r : Except DeliveryError Bool} (own : ∀ w ∈ workflows, w.id = id)
    (keyed : ∀ x ∈ h, Keyed x) (offered : e.Offered replyId workflows h r) :
    Along lockAfter (OnBehalf id) none h ∧ h.foldl lockAfter none = none := by
  have inside : ∀ {w : Workflow} {g x}, x ∈ g → x ∈ e.locked w g := fun hx =>
    List.mem_cons_of_mem _ (List.mem_append_left _ hx)
  induction offered with
  | nobody => exact ⟨trivial, rfl⟩
  | passed w rest g h r first others ih =>
    obtain ⟨hw, hrest⟩ := List.forall_mem_cons.1 own
    obtain ⟨here, last⟩ := onBehalf_of_routed
      (fun x hx => keyed x (List.mem_append_left _ (inside hx))) first
    obtain ⟨later, last'⟩ := ih hrest fun x hx => keyed x (List.mem_append_right _ hx)
    rw [hw] at here
    rw [along_append, List.foldl_append, last]
    exact ⟨⟨here, later⟩, last'⟩
  | last w rest g r hr routed =>
    obtain ⟨hw, -⟩ := List.forall_mem_cons.1 own
    have here := onBehalf_of_routed (fun x hx => keyed x (inside hx)) routed
    rwa [hw] at here

/-- A workflow that passes a reply on has only been asked for its conversation and its booking. -/
theorem unrouted_of_passed {g : History} (passed : e.Routed replyId w g (.ok false)) :
    w.graph.routeReply? replyId = none ∧ ∀ x ∈ g, ¬ x.1.OfChain := by
  generalize hr : (.ok false : Except DeliveryError Bool) = r at passed
  cases passed with
  | unread err => cases hr
  | unsaved loaded p calls x err hp run => cases hr
  | taken loaded g r taken => cases r <;> cases hr
  | passed loaded asked d declined unrouted =>
    refine ⟨unrouted, List.forall_mem_cons.2 ⟨id, ?_⟩⟩
    have booked : ∀ {calls : List BookingExchange}, ∀ x ∈ calls.map BookingExchange.inService,
        ¬ x.1.OfChain := by
      intro calls x hx
      obtain ⟨y, -, rfl⟩ := List.mem_map.1 hx
      exact id
    cases declined with
    | idle hp => exact List.forall_mem_nil _
    | notForFlow p calls x hp run => exact booked
    | rejected p calls x hp run =>
      intro y hy
      rcases List.mem_append.1 hy with hy | hy
      · exact booked y hy
      · rw [List.mem_singleton.1 hy]
        exact id

/-- At most one workflow runs a chain for a reply: the first that does not pass it on. -/
theorem oneChain_of_offered {workflows : List Workflow} {h : History}
    {r : Except DeliveryError Bool} (offered : e.Offered replyId workflows h r) :
    OneChain e.facts.phone replyId workflows h := by
  have quiet : ∀ taker held (x : Exchange Request.Answer), x.1.Locks →
      OfTaker e.facts.phone taker held x :=
    fun _ _ _ hx hc => absurd hc (Request.not_ofChain_of_locks hx)
  have unlocked : ∀ {w : Workflow} {g r}, e.Routed replyId w g r →
      ∀ x ∈ g, Serves w.id (fun _ => True) x := fun routed =>
    serves_routed (fun _ _ => trivial) routed
  -- the workflow in front of a chain passed the reply on, so it adds nothing of a chain
  induction offered with
  | nobody => exact ⟨[], none, [], rfl, List.forall_mem_nil _, trivial⟩
  | passed w rest g h r first others ih =>
    obtain ⟨passed, taker, later, rfl, hpassed, along⟩ := ih
    obtain ⟨unrouted, nochain⟩ := unrouted_of_passed first
    obtain ⟨here, last⟩ := along_locked (quiet taker) (fun x hx => (unlocked first x hx).1)
      fun x hx hc => absurd hc (nochain x hx)
    refine ⟨w :: passed, taker, later, rfl, List.forall_mem_cons.2 ⟨unrouted, hpassed⟩, ?_⟩
    rw [along_append, last]
    exact ⟨here, along⟩
  | last w rest g r hr routed =>
    refine ⟨[], some w, rest, rfl, List.forall_mem_nil _, ?_⟩
    exact (along_locked (quiet (some w)) (fun x hx => (unlocked routed x hx).1)
      fun x hx _ => ⟨w, rfl, rfl, (unlocked routed x hx).2⟩).1

end EventScope

end Dialogue
