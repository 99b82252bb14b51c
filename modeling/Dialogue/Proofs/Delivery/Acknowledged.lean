import Dialogue.Proofs.Delivery.Refusals
import Dialogue.Proofs.Delivery.Stores
import Mathlib.Data.List.Infix

/-!
# What an acknowledgement says

A delivery of one message is acknowledged with one word, and the word tells what was done with it:
an ignored message and an inquiry left everything as it was, a captured text claimed no day, and an
event that was not handled was noticed by nobody. Before an event is given up it is offered to
several workflows, and all that may be left of these offers is that a booking which rejected a reply
is over (`EventScope.ended_of_offered`); a first text for which no workflow has an entry node has
claimed its day besides. `ServiceSettings.acknowledged_of_serves` says so of whole deliveries.
-/

namespace Dialogue

open DeliveryWork

namespace EventScope

variable {e : EventScope}

/-! ## Texts that no booking takes -/

theorem passed_of_runs_captureIn {w : Workflow} {text : String} {c : Conversation}
    {p : BookingProgress} {h : History}
    (run : Program.Runs (e.captureIn w text c p) h (.ok false)) : h = [] := by
  rcases runs_bind run with ⟨h₁, a, h₂, rfl, booked, rest⟩ | ⟨err, -, hr⟩
  · obtain ⟨⟨taken, x⟩, hs, asked⟩ := runs_booking booked
    cases hs
    obtain ⟨calls, rfl, took⟩ := runs_ofBooking.1 asked
    rcases taken with err | _ | step
    · obtain ⟨_ | _, -, hr⟩ := runs_then_true rest <;> cases hr
    · obtain ⟨rfl, -⟩ := Visit.not_taken_of_runs took
      obtain ⟨rfl, -⟩ := rest
      rfl
    · obtain ⟨_ | _, -, hr⟩ := runs_then_true rest <;> cases hr
  · cases hr

theorem onlyReads_locked {w : Workflow} {g : History} (reads : ∀ x ∈ g, x.1.OnlyReads) :
    ∀ x ∈ e.locked w g, x.1.OnlyReads := by
  intro x hx
  rcases List.mem_cons.1 hx with rfl | hx
  · trivial
  · rcases List.mem_append.1 hx with hx | hx
    · exact reads x hx
    · rw [List.mem_singleton.1 hx]
      trivial

/-- A workflow that passes a text on has only looked at its conversation. -/
theorem onlyReads_of_runs_capture {w : Workflow} {text : String} {h : History}
    (run : Program.Runs (e.capture text w) h (.ok false)) : ∀ x ∈ h, x.1.OnlyReads := by
  obtain ⟨a, b, g, rfl, inside⟩ := runs_withLock run
  refine onlyReads_locked (e := e) (w := w) ?_
  obtain ⟨answer, g', rfl, rest⟩ := inside
  rcases answer with err | _ | c
  · cases rest.2
  · obtain ⟨rfl, -⟩ := rest
    exact List.forall_mem_singleton.2 trivial
  · dsimp only [Except.mapError, Program.bind, ExceptT.bindCont] at rest
    split at rest
    · rw [passed_of_runs_captureIn rest]
      exact List.forall_mem_singleton.2 trivial
    · obtain ⟨rfl, -⟩ := rest
      exact List.forall_mem_singleton.2 trivial

theorem onlyReads_of_runs_captures {text : String} : ∀ {workflows : List Workflow} {h : History},
    Program.Runs (anyTakes (e.capture text) workflows) h (.ok false) → ∀ x ∈ h, x.1.OnlyReads
  | [], h, run => by
    obtain ⟨rfl, -⟩ := run
    exact List.forall_mem_nil _
  | w :: rest, h, run => by
    rcases runs_bind run with ⟨h₁, taken, h₂, rfl, first, others⟩ | ⟨err, -, hr⟩
    · cases taken with
      | true => cases others.2
      | false =>
        intro x hx
        rcases List.mem_append.1 hx with hx | hx
        · exact onlyReads_of_runs_capture first x hx
        · exact onlyReads_of_runs_captures others x hx
    · cases hr

/-- What becomes of a text, apart from starting chains: a booking takes it, and no day is claimed;
or its day was claimed before, and nothing changes; or it claims its day, and no workflow has an
entry node. -/
theorem outcome_of_runs_handleText {account : AccountId} {workflows : List Workflow}
    {body : String} {h : History} {outcome : DeliveryOutcome}
    (run : Program.Runs (e.handleText account workflows body) h (.ok outcome)) :
    outcome = .ok
      ∨ outcome = .captured ∧ (∀ x ∈ h, ¬ x.1.Claims)
      ∨ ∃ g, (∀ x ∈ g, x.1.OnlyReads)
        ∧ (outcome = .inquiry
            ∧ h = g ++ [⟨.claimDay ⟨account, e.facts.phone, e.facts.localDate⟩, .ok false⟩]
          ∨ outcome = .notHandled
            ∧ h = g ++ [⟨.claimDay ⟨account, e.facts.phone, e.facts.localDate⟩, .ok true⟩,
              ⟨.workflowsWithEntry account, .ok []⟩]) := by
  rcases runs_bind run with ⟨h₁, taken, h₂, rfl, offers, rest⟩ | ⟨err, -, hr⟩
  · cases taken with
    | true =>
      obtain ⟨rfl, hr⟩ := rest
      cases hr
      have claimless := claimless_anyTakes (e.claimless_capture body) workflows
      rw [List.append_nil]
      exact .inr (.inl ⟨rfl, (claimless h₁ _ offers).1⟩)
    | false =>
      have reads := onlyReads_of_runs_captures offers
      rcases runs_bind rest with ⟨g, decision, g', rfl, decided, rest⟩ | ⟨err, -, hr⟩
      · obtain ⟨told, decided, hr⟩ := runs_persisting decided
        cases DayDecision.decided_of_runs decided with
        | unclaimed err => cases hr
        | unlisted err => cases hr
        | inquiry =>
          cases hr
          obtain ⟨rfl, hr⟩ := rest
          cases hr
          exact .inr (.inr ⟨h₁, reads, .inl ⟨rfl, rfl⟩⟩)
        | first starting =>
          cases hr
          cases starting with
          | nil =>
            obtain ⟨rfl, hr⟩ := rest
            cases hr
            exact .inr (.inr ⟨h₁, reads, .inr ⟨rfl, rfl⟩⟩)
          | cons w starting =>
            have started : Program.Runs (e.startDay (w :: starting)) g' (.ok outcome) := rest
            rcases runs_bind started with ⟨k, failed, k', rfl, -, ended⟩ | ⟨err, -, hr⟩
            · cases failed with
              | some err => cases ended.2
              | none =>
                obtain ⟨-, hr⟩ := ended
                cases hr
                exact .inl rfl
            · cases hr
      · cases hr
  · cases hr

/-! ## Replies that nobody takes -/

/-- The booking that a conversation was in the middle of was offered a reply and rejected it. -/
def Rejected (e : EventScope) (w : Workflow) (replyId : String) (h : History) (c : Conversation) :
    Prop :=
  ∃ calls x, ((e.chain w).visit.takeReply replyId c.context).Runs calls (.ok .rejected, x)
    ∧ calls.map BookingExchange.inService <:+: h

theorem Rejected.within {w : Workflow} {replyId : String} {g h : History} {c : Conversation}
    (rejected : e.Rejected w replyId g c) (hg : g <:+: h) : e.Rejected w replyId h c := by
  obtain ⟨calls, x, run, asked⟩ := rejected
  exact ⟨calls, x, run, asked.trans hg⟩

variable {replyId : String} {w : Workflow} {t t' : Stores}

/-- A booking that declines a reply leaves everything as it was, or is over. -/
theorem ended_of_declined {c d : Conversation} {g : History}
    (declined : e.Declined replyId w c g d) (served : t.Serves g t')
    (stored : c.context.booking ≠ none → t.conversations.find? (e.key w) = some c) :
    t.Ended (fun key c => key = e.key w ∧ e.Rejected w replyId g c) t' := by
  cases declined with
  | idle hp =>
    obtain rfl : t' = t := served
    exact .refl t'
  | notForFlow p calls x hp run =>
    obtain ⟨rfl, -⟩ := Visit.notForFlow_of_runs run
    obtain rfl : t' = t := served
    exact .refl t'
  | rejected p calls x hp run =>
    obtain ⟨spared, rfl⟩ := Visit.rejected_of_runs run
    obtain ⟨u, booked, _, saved, rfl⟩ := Stores.serves_append.1 served
    obtain rfl := booked.eq_of_not_alters spared
    have ended : e.Rejected w replyId (calls.map BookingExchange.inService ++
        [⟨.saveConversation { c with context := c.context.clearProgress }, .ok ()⟩]) c :=
      ⟨calls, _, run, List.infix_append' [] _ _⟩
    rw [show t' = _ from saved]
    exact .save (stored (by rw [hp]; nofun)) ⟨rfl, ended⟩

/-- All that is left of offering a reply to a workflow that passes it on is that the booking which
rejected it is over. -/
theorem ended_of_passed {g : History} (passed : e.Routed replyId w g (.ok false))
    (served : t.Serves (e.locked w g) t') :
    t.Ended (fun key c => key = e.key w ∧ e.Rejected w replyId (e.locked w g) c) t' := by
  obtain ⟨u, rfl, served⟩ := served
  obtain ⟨u, inside, _, hu, rfl⟩ := Stores.serves_append.1 served
  obtain rfl : t' = u := hu
  have wider (key : ConversationKey) (c : Conversation)
      (h : key = e.key w ∧ e.Rejected w replyId g c) :
      key = e.key w ∧ e.Rejected w replyId (e.locked w g) c :=
    ⟨h.1, h.2.within ⟨[_], [_], rfl⟩⟩
  refine Stores.Ended.mono ?_ wider
  generalize hr : (.ok false : Except DeliveryError Bool) = r at passed
  cases passed with
  | unread err => cases hr
  | unsaved loaded p calls x err hp run => cases hr
  | taken loaded g r taken => cases r <;> cases hr
  | passed loaded asked d declined unrouted =>
    obtain ⟨u, ⟨hloaded, rfl⟩, rest⟩ := inside
    refine (ended_of_declined declined rest fun hp => ?_).mono fun key c h =>
      ⟨h.1, h.2.within ⟨[_], [], by rw [List.append_nil]; rfl⟩⟩
    cases loaded with
    | none => exact absurd rfl hp
    | some c => exact hloaded.symm

/-- All that is left of a reply that nobody takes is that the bookings which rejected it are
over. -/
theorem ended_of_offered {workflows : List Workflow} {h : History}
    {r : Except DeliveryError Bool} (offered : e.Offered replyId workflows h r)
    (hr : r = .ok false) : ∀ {t t' : Stores}, t.Serves h t' →
      t.Ended (fun key c => ∃ w ∈ workflows, key = e.key w ∧ e.Rejected w replyId h c) t'
        ∧ Unnoticed h := by
  induction offered with
  | nobody =>
    rintro t t' rfl
    exact ⟨.refl t', List.forall_mem_nil _⟩
  | passed w rest g h r first others ih =>
    intro t t' served
    obtain ⟨u, here, there⟩ := Stores.serves_append.1 served
    obtain ⟨later, unnoticed⟩ := ih hr there
    refine ⟨((ended_of_passed first here).mono fun key c ended => ?_).trans
      (later.mono fun key c ended => ?_), ?_⟩
    · exact ⟨w, List.mem_cons_self, ended.1, ended.2.within (List.infix_append' [] _ _)⟩
    · obtain ⟨w', hw', hkey, ended⟩ := ended
      exact ⟨w', List.mem_cons_of_mem w hw', hkey,
        ended.within ⟨e.locked w g, [], by rw [List.append_nil]⟩⟩
    · refine Unnoticed.append (List.forall_mem_cons.2 ⟨id, ?_⟩) unnoticed
      exact Unnoticed.append (unrouted_of_passed first).2 (List.forall_mem_singleton.2 id)
  | last w rest g r hne routed => exact absurd hr hne

end EventScope

namespace ServiceSettings

variable (s : ServiceSettings)

/-! ## Acknowledgements -/

/-- The look-up of the workflows of a delivery. -/
def listing (d : Delivery) (workflows : List Workflow) : Exchange Request.Answer :=
  ⟨.workflowsByToken d.account d.token, .ok workflows⟩

/-- The day of a text event, as an account claims it. -/
def OwnDay (d : Delivery) (raw : Json) (c : DayClaim) : Prop :=
  ∃ event, InboundEvent.ofJson raw d.receivedAt = .text event
    ∧ s.clock.date? event.timestamp = some c.date ∧ c.accountId = d.account
    ∧ c.phone = event.phone

/-- A conversation of the participant with a workflow of the token was in the middle of a booking,
and the booking rejected the reply that the delivery brought. -/
def RejectedBy (d : Delivery) (raw : Json) (h : History) (key : ConversationKey)
    (c : Conversation) : Prop :=
  ∃ event facts workflows w, InboundEvent.ofJson raw d.receivedAt = .reply event
    ∧ s.clock.facts? event.phone event.title event.timestamp = some facts
    ∧ listing d workflows ∈ h ∧ w ∈ workflows
    ∧ key = ⟨w.id, event.phone⟩
    ∧ EventScope.Rejected ⟨s, facts, event.kind, raw, d.receivedAt⟩ w event.replyId h c

/-- What an outcome says about a delivery of one message that asked a history and took the stores
from one state to another. -/
def Acknowledged (d : Delivery) (raw : Json) (h : History) (t t' : Stores) :
    DeliveryOutcome → Prop
  | .ignored | .inquiry => t' = t ∧ Unnoticed h
  | .captured => t'.claims = t.claims
  | .notHandled => Unnoticed h
    ∧ (t'.claims = t.claims ∨ ∃ c, s.OwnDay d raw c ∧ t'.claims = t.claims ++ [c])
    ∧ { t with claims := t'.claims }.Ended (s.RejectedBy d raw h) t'
  | .ok => True

variable {s} {d : Delivery} {raw : Json} {h : History} {outcome : DeliveryOutcome} {t t' : Stores}

/-- The outcome of a delivery of one message is that of its event. -/
theorem handled_of_runs (one : InboundEvent.messages d.payload = [raw])
    (run : Program.Runs (s.handle d) h (.ok outcome)) :
    ∃ workflows g, h = listing d workflows :: g
      ∧ Program.Runs (s.handleEvent d.account workflows raw d.receivedAt
        (.ofJson raw d.receivedAt)) g (.ok outcome) := by
  rw [handle_eq] at run
  obtain ⟨listed, h, rfl, rest⟩ := run
  rcases listed with err | _ | ⟨w, workflows⟩
  · cases rest.2
  · cases rest.2
  · dsimp only [Program.bind, handleFound] at rest
    rw [one] at rest
    rcases runs_bind rest with ⟨g, next, g', rfl, handled, rfl, merged⟩ | ⟨err, -, hr⟩
    · obtain rfl : outcome = next := by
        cases next <;> cases merged <;> rfl
      exact ⟨w :: workflows, g, by rw [List.append_nil]; rfl, handled⟩
    · cases hr

theorem acknowledged_text {event : TextEvent} {workflows : List Workflow}
    (hevent : InboundEvent.ofJson raw d.receivedAt = .text event)
    (run : Program.Runs (s.handleEvent d.account workflows raw d.receivedAt (.text event)) h
      (.ok outcome)) (served : t.Serves h t') :
    s.Acknowledged d raw (listing d workflows :: h) t t' outcome := by
  dsimp only [handleEvent] at run
  cases hfacts : s.clock.facts? event.phone (some event.body) event.timestamp with
  | none =>
    rw [hfacts] at run
    cases run.2
  | some facts =>
    rw [hfacts] at run
    obtain ⟨date, hdate, rfl⟩ := Option.map_eq_some_iff.1 hfacts
    rcases EventScope.outcome_of_runs_handleText run with
      rfl | ⟨rfl, claimless⟩ | ⟨g, reads, ⟨rfl, rfl⟩ | ⟨rfl, rfl⟩⟩
    · trivial
    · exact served.claims_eq claimless
    · obtain ⟨u, before, v, ⟨-, rfl⟩, rfl⟩ := Stores.serves_append.1 served
      have unnoticed := unnoticed_of_onlyReads reads
      exact ⟨before.eq_of_onlyReads reads,
        List.forall_mem_cons.2 ⟨id, unnoticed.append (List.forall_mem_singleton.2 id)⟩⟩
    · obtain ⟨u, before, v, ⟨-, rfl⟩, w, hw, rfl⟩ := Stores.serves_append.1 served
      obtain rfl := before.eq_of_onlyReads reads
      obtain rfl : t' = _ := hw
      have unnoticed := unnoticed_of_onlyReads reads
      have claimed : Unnoticed [⟨.claimDay ⟨d.account, event.phone, date⟩, .ok true⟩,
          ⟨.workflowsWithEntry d.account, .ok []⟩] :=
        List.forall_mem_cons.2 ⟨id, List.forall_mem_singleton.2 id⟩
      exact ⟨List.forall_mem_cons.2 ⟨id, unnoticed.append claimed⟩,
        .inr ⟨_, ⟨event, hevent, hdate, rfl, rfl⟩, rfl⟩, .refl _⟩

theorem acknowledged_reply {event : ReplyEvent} {workflows : List Workflow}
    (hevent : InboundEvent.ofJson raw d.receivedAt = .reply event)
    (run : Program.Runs (s.handleEvent d.account workflows raw d.receivedAt (.reply event)) h
      (.ok outcome)) (served : t.Serves h t') :
    s.Acknowledged d raw (listing d workflows :: h) t t' outcome := by
  obtain ⟨g, looked, g', rfl, lookup, answered⟩ := answered_of_runs run
  generalize hr : (.ok outcome : Except DeliveryError DeliveryOutcome) = r at answered
  cases answered with
  | unknown err => cases hr
  | undated record hf => cases hr
  | offered record facts g' taken hf offered =>
    rcases taken with err | _ | _
    · cases hr
    · cases hr
      have reads : ∀ x ∈ g, x.1.OnlyReads := by
        cases lookup with
        | unquoted hq => exact List.forall_mem_nil _
        | found messageId hq hne record => exact List.forall_mem_singleton.2 trivial
      obtain ⟨u, before, after⟩ := Stores.serves_append.1 served
      obtain rfl := before.eq_of_onlyReads reads
      obtain ⟨ended, unnoticed⟩ := EventScope.ended_of_offered offered rfl after
      have claims : t'.claims = u.claims := by rw [ended.others]
      refine ⟨List.forall_mem_cons.2 ⟨id, (unnoticed_of_onlyReads reads).append unnoticed⟩,
        .inl claims, ?_⟩
      rw [claims]
      refine ended.mono ?_
      rintro key c ⟨w, hw, rfl, rejected⟩
      refine ⟨event, facts, workflows, w, hevent, hf, List.mem_cons_self,
        (List.mem_filter.1 hw).1, ?_, rejected.within ?_⟩
      · unfold EventScope.key
        rw [facts?_phone hf]
      · exact (List.suffix_append (listing d workflows :: g) g').isInfix
    · cases hr
      trivial

/-- Whatever the stores hold, a delivery of one message that is answered has done what its outcome
says: if it was ignored or an inquiry, no store changed and nobody noticed anything; if it was
captured, no day was claimed; if it was not handled, nothing was sent, called, recorded, logged or
booked, at most the text's own day was claimed, and conversations differ at most in that a booking
in progress and its questions are over where the booking rejected the reply. -/
theorem acknowledged_of_serves (s : ServiceSettings) {d : Delivery} {raw : Json}
    (one : InboundEvent.messages d.payload = [raw]) {h : History} {outcome : DeliveryOutcome}
    (run : Program.Runs (s.handle d) h (.ok outcome)) {t t' : Stores} (served : t.Serves h t') :
    s.Acknowledged d raw h t t' outcome := by
  obtain ⟨workflows, g, rfl, handled⟩ := handled_of_runs one run
  obtain ⟨u, hu, served⟩ := served
  obtain rfl : u = t := hu
  cases hevent : InboundEvent.ofJson raw d.receivedAt with
  | ignorable reason =>
    rw [hevent] at handled
    obtain ⟨rfl, hr⟩ := handled
    cases hr
    exact ⟨served, List.forall_mem_singleton.2 id⟩
  | text event =>
    rw [hevent] at handled
    exact acknowledged_text hevent handled served
  | reply event =>
    rw [hevent] at handled
    exact acknowledged_reply hevent handled served

/-! A reply that selects somebody whom the practice does not have. -/

namespace UnknownStaff

def account : AccountId := ⟨⟨1⟩⟩

def now : Instant := (Instant.ofSeconds? 1773025200).get rfl

def settings : ServiceSettings := ⟨⟨7200, by decide, by decide⟩, 7, .standard⟩

def workflow : Workflow :=
  ⟨⟨⟨2⟩⟩, account, "Bookings", true, none, "token", .empty, now, now⟩

def progress : BookingProgress :=
  ⟨.selectStaff, "book", .book .standard, some ⟨1⟩, none, none, none, none⟩

def conversation : Conversation :=
  { Conversation.new workflow.id "919800000001" now with
    context := ⟨[("lang", .str "en")], some progress, none⟩ }

def world : World := { World.empty with workflows := [workflow], conversations := [conversation] }

def message : Json :=
  .obj [("chat_id", .str "919800000001@s.whatsapp.net"),
    ("reply", .obj [("list_reply", .obj [("id", .str "booking_staff_9")]),
      ("type", .str "list_reply")])]

def delivery : Delivery := ⟨account, "token", .obj [("messages", .arr [message])], now⟩

/-- What handling the reply asks. -/
def asked : History := (settings.handle delivery).history (World.answer now) world

/-- The stores, given the conversation they hold. -/
def stores (c : Conversation) : Stores := ⟨[c], [], [], [], .empty⟩

end UnknownStaff

open UnknownStaff in
/-- The reply is not handled, and all that is left of it is that the booking is over. -/
theorem acknowledged_unknownStaff : Program.Runs (settings.handle delivery) asked (.ok .notHandled)
    ∧ (stores conversation).Serves asked (stores conversation.clearProgress)
    ∧ settings.Acknowledged delivery message asked (stores conversation)
      (stores conversation.clearProgress) .notHandled := by
  have one : InboundEvent.messages delivery.payload = [message] := rfl
  have run : Program.Runs (settings.handle delivery) asked (.ok .notHandled) :=
    Program.runs_history (World.answer now) (settings.handle delivery) world
  have served : (stores conversation).Serves asked (stores conversation.clearProgress) :=
    ⟨_, rfl, _, rfl, _, ⟨rfl, rfl⟩, _, ⟨_, .inl ⟨now, rfl, rfl⟩, rfl⟩, _, rfl, _, rfl, rfl⟩
  exact ⟨run, served, settings.acknowledged_of_serves one run served⟩

end ServiceSettings

end Dialogue
