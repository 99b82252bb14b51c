import Dialogue.Delivery.Handle
import Dialogue.Proofs.Chain.Contract

/-!
# What handling an event asks

Apart from offering a text or a reply to a booking in progress, nothing that is done for an event
asks the store of appointments for more than a flow's first step does (`selectless_runChain`,
`selectless_routeByGraph`, `selectless_startDay`). So whatever else is asked, a booking in progress
asked it.
-/

namespace Dialogue

/-- The requests that only a booking in progress makes. -/
def Request.Selects : Request → Prop
  | .booking (.listDepartments _) => False
  | .booking (.listUpcoming _ _ _) => False
  | .booking _ => True
  | _ => False

/-- Every exchange of the program is `ok`. -/
def Asks {α : Type} (ok : Exchange Request.Answer → Prop) (p : Service α) : Prop :=
  p.Ensures ok fun _ => True

namespace Asks

variable {α β : Type} {ok : Exchange Request.Answer → Prop} {p : Service α}

theorem done {a : α} : Asks ok (.done a) := Program.Ensures.done trivial

theorem ask {r : Request} (h : ∀ a, ok ⟨r, a⟩) : Asks ok (Service.ask r) :=
  Program.Ensures.ask fun a => ⟨h a, .done trivial⟩

theorem bind {f : α → Service β} (hp : Asks ok p) (hf : ∀ a, Asks ok (f a)) :
    Asks ok (p.bind f) :=
  Program.Ensures.bind hp fun a _ => hf a

end Asks

namespace DeliveryWork

variable {α β ε : Type} {ok : Exchange Request.Answer → Prop} {w : DeliveryWork α}

theorem bind_eq (w : DeliveryWork α) (f : α → DeliveryWork β) :
    @Eq (DeliveryWork β) (w >>= f) (Program.bind w fun r => match r with
      | .ok a => f a
      | .error e => .done (.error e)) := by
  refine congrArg (Program.bind w) (funext ?_)
  rintro (e | a) <;> rfl

theorem asks_pure {a : α} : Asks ok (pure a : DeliveryWork α) := .done

theorem asks_throw {e : DeliveryError} : Asks ok (throw e : DeliveryWork α) := .done

theorem asks_bind {f : α → DeliveryWork β} (hw : Asks ok w) (hf : ∀ a, Asks ok (f a)) :
    Asks ok (w >>= f : DeliveryWork β) := by
  rw [bind_eq]
  refine Asks.bind hw fun r => ?_
  cases r with
  | ok a => exact hf a
  | error e => exact .done

theorem asks_lift {p : Service α} (hp : Asks ok p) : Asks ok (ExceptT.lift p : DeliveryWork α) :=
  Asks.bind hp fun _ => .done

theorem asks_persisting {p : Service (Except ε α)} {text : ε → String} (hp : Asks ok p) :
    Asks ok (persisting p text) :=
  Asks.bind hp fun _ => .done

theorem asks_withLock {key : ConversationKey} (hlock : ∀ r, ok ⟨.lock key, r⟩)
    (hunlock : ∀ r, ok ⟨.unlock key, r⟩) (hw : Asks ok w) : Asks ok (withLock key w) :=
  (Asks.ask hlock).bind fun _ => Asks.bind hw fun _ => (Asks.ask hunlock).bind fun _ => .done

end DeliveryWork

/-- No exchange of the program is one of a booking in progress. -/
abbrev Selectless {α : Type} (p : Service α) : Prop := Asks (fun x => ¬ x.1.Selects) p

namespace ChainScope

/-- Executing nodes selects nothing. -/
def selectless (e : ChainScope) : NodeContract e where
  conversation _ := True
  exchange x := ¬ x.1.Selects
  failure _ := True
  advance _ _ _ := trivial
  set _ _ _ _ := trivial
  clear _ _ := trivial
  start _ _ _ _ := trivial
  ask x hx hs := by
    obtain ⟨q, r⟩ := x
    cases q with
    | booking q => cases q <;> first | exact hx | exact hs
    | _ => exact hs
  save _ _ _ := id
  fail _ _ := trivial

end ChainScope

namespace EventScope

open DeliveryWork

variable (e : EventScope)

section

variable {ok : Exchange Request.Answer → Prop}

theorem asks_finish (w : Workflow) (report : ChainReport) {c : Conversation}
    (hid : ∀ r, ok ⟨.newLogId, r⟩)
    (hlog : ∀ entry r, entry.workflowId = w.id → ok ⟨.appendLog entry, r⟩)
    (hsave : ∀ r, ok ⟨.saveConversation c, r⟩) : Asks ok (e.finish w report c) := by
  unfold finish
  refine asks_bind (asks_lift (.ask hid)) fun _ => ?_
  refine asks_bind (asks_lift (.ask fun r => hlog _ r rfl)) fun _ => ?_
  split
  · split
    · exact asks_throw
    · exact asks_pure
  · exact asks_persisting (.ask hsave)

/-- A chain and its log are within a contract of its nodes that allows logging. -/
theorem asks_runChain {w : Workflow} (N : NodeContract (e.chain w))
    (cycle : ∀ id, N.failure (.cycle id w.graph.nodeCount)) (hid : ∀ r, N.exchange ⟨.newLogId, r⟩)
    (hlog : ∀ entry r, entry.workflowId = w.id → N.exchange ⟨.appendLog entry, r⟩)
    {c : Conversation}
    (hc : N.conversation c) (start : ChainStart) :
    Asks N.exchange (e.runChain w c start) := by
  have hrun : Program.Ensures (ExceptT.lift ((e.chain w).run c start) : DeliveryWork _)
      N.exchange fun r => ∃ a, r = .ok a ∧ N.conversation a.2 :=
    Program.Ensures.bind (N.ensures_run cycle hc start) fun a ha => .done ⟨a, rfl, ha.1⟩
  unfold runChain
  rw [bind_eq]
  refine hrun.bind ?_
  rintro _ ⟨a, rfl, ha⟩
  exact e.asks_finish w a.1 hid hlog fun r => N.save a.2 r ha

end

/-! ## What selects nothing -/

theorem selectless_load (w : Workflow) : Selectless (e.load w) :=
  asks_persisting (.ask fun _ => id)

theorem selectless_loadOrNew (w : Workflow) : Selectless (e.loadOrNew w) :=
  asks_bind (e.selectless_load w) fun _ => asks_pure

theorem selectless_save (c : Conversation) : Selectless (save c) :=
  asks_persisting (.ask fun _ => id)

theorem selectless_finish (w : Workflow) (report : ChainReport) (c : Conversation) :
    Selectless (e.finish w report c) :=
  e.asks_finish w report (fun _ => id) (fun _ _ _ => id) fun _ => id

theorem selectless_runChain (w : Workflow) (c : Conversation) (start : ChainStart) :
    Selectless (e.runChain w c start) :=
  e.asks_runChain (e.chain w).selectless (fun _ => trivial) (fun _ => id) (fun _ _ _ => id) trivial
    start

theorem selectless_routeByGraph (w : Workflow) (replyId : String) (c : Conversation) :
    Selectless (e.routeByGraph w replyId c) := by
  unfold routeByGraph
  split
  · exact asks_pure
  · exact asks_bind (e.selectless_runChain w _ _) fun _ => asks_pure

theorem selectless_startEntry (w : Workflow) : Selectless (e.startEntry w) := by
  unfold startEntry
  split
  · exact asks_pure
  · refine asks_withLock (fun _ => id) (fun _ => id) ?_
    exact asks_bind (e.selectless_loadOrNew w) fun _ => e.selectless_runChain w _ _

theorem selectless_startAll : ∀ workflows : List Workflow, Selectless (e.startAll workflows)
  | [] => .done
  | w :: r => (e.selectless_startEntry w).bind fun _ => (selectless_startAll r).bind fun _ => .done

theorem selectless_startDay (workflows : List Workflow) : Selectless (e.startDay workflows) := by
  unfold startDay
  split
  · exact asks_pure
  · refine asks_bind (asks_lift (e.selectless_startAll workflows)) fun r => ?_
    split
    · exact asks_throw
    · exact asks_pure

end EventScope

theorem DayDecision.selectless_decide (account : AccountId) (phone : String) (date : Date) :
    Selectless (DayDecision.decide account phone date) := by
  refine (Asks.ask fun _ => id).bind fun claimed => ?_
  rcases claimed with e | b
  · exact .done
  · cases b with
    | false => exact .done
    | true =>
      refine (Asks.ask fun _ => id).bind fun workflows => ?_
      cases workflows <;> exact .done

theorem Ownership.selectless_find (quotedId : Option String) :
    Selectless (Ownership.find quotedId) := by
  unfold find
  split
  · exact .done
  · refine (Asks.ask fun _ => id).bind fun record => ?_
    cases record <;> exact .done

end Dialogue
