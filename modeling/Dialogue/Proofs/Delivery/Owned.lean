import Dialogue.Proofs.Conversation.Stored
import Dialogue.Proofs.Delivery.Serving
import Dialogue.Rehearsal.World

/-!
# Replies to what a workflow sent

A reply is handled in two parts: the record of the message it quotes is looked up (`LookedUp`), and
the workflows that the record allows are offered the reply (`Answered`). As long as the record is a
workflow's, only that workflow does anything, and whatever it records meanwhile is its own, so the
next delivery finds the record a workflow's again (`actsFor_handleAll`). Whatever the record, at
most one workflow runs a chain. `owned_or_first` says both.

A reply that quotes the empty identifier is looked up nowhere, so even if a message is recorded
under it, any workflow may take the reply (`emptyQuote_taken`).
-/

namespace Dialogue

open DeliveryWork EventScope

namespace SentMessageTable

/-- The records after an exchange. -/
def next (t : SentMessageTable) : Exchange Request.Answer → SentMessageTable
  | ⟨.recordMessage m, .ok _⟩ => t.record m
  | _ => t

/-- A look-up of a record that does not fail finds what is recorded, and a conversation that is
loaded is one of the key. -/
def Answers (t : SentMessageTable) : Exchange Request.Answer → Prop
  | ⟨.findMessage messageId, .ok found⟩ => found = t.find? messageId
  | ⟨.loadConversation key, .ok (some c)⟩ => c.key = key
  | _ => True

/-- The stores answer so all along a history. -/
def Truthful (t : SentMessageTable) (h : History) : Prop := Along next Answers t h

/-- The message is recorded, and a workflow sent it. -/
def Owned (t : SentMessageTable) (messageId : String) (id : WorkflowId) : Prop :=
  ∃ m, t.find? messageId = some m ∧ m.workflowId = id

theorem find?_record (t : SentMessageTable) (m : SentMessage) (messageId : String) :
    (t.record m).find? messageId
      = if m.messageId = messageId then some m else t.find? messageId := by
  induction t with
  | nil => by_cases hm : m.messageId = messageId <;> simp [record, find?, hm]
  | cons n r ih =>
    by_cases hn : n.messageId = m.messageId
    · by_cases hm : m.messageId = messageId <;> simp [record, find?, hn, hm]
    · by_cases hq : n.messageId = messageId
      · subst hq
        simp [record, find?, hn, Ne.symm hn]
      · simpa [record, find?, hn, hq] using ih

theorem keyed_of_answers {t : SentMessageTable} {x : Exchange Request.Answer} (h : t.Answers x) :
    Keyed x := by
  rintro key c rfl
  exact h

variable {messageId : String} {id : WorkflowId}

theorem owned_next {t : SentMessageTable} {x : Exchange Request.Answer}
    (ht : t.Owned messageId id) {held : Option ConversationKey} (hx : OnBehalf id held x) :
    (t.next x).Owned messageId id := by
  obtain ⟨q, r⟩ := x
  cases q with
  | recordMessage m =>
    cases r with
    | error e => exact ht
    | ok u =>
      show (t.record m).Owned messageId id
      unfold Owned
      rw [find?_record]
      split
      · exact ⟨m, rfl, (hx trivial).2⟩
      · exact ht
  | _ => exact ht

/-- A record that is a workflow's stays so while everything is done on behalf of the workflow. -/
theorem owned_foldl {t : SentMessageTable} {held : Option ConversationKey} {h : History}
    (along : Along lockAfter (OnBehalf id) held h) (ht : t.Owned messageId id) :
    SentMessageTable.Owned (h.foldl next t) messageId id := by
  induction h generalizing t held with
  | nil => exact ht
  | cons x h ih =>
    obtain ⟨hx, along⟩ := along
    exact ih along (owned_next ht hx)

end SentMessageTable

/-! ## Rehearsed stores are truthful -/

namespace World

theorem answers_answer (now : Instant) (r : Request) (w : World) :
    w.messages.Answers ⟨r, (answer now r w).1⟩ := by
  cases r with
  | findMessage messageId =>
    dsimp only [answer, guarded]
    split
    · trivial
    · rfl
  | loadConversation key =>
    dsimp only [answer, guarded]
    split
    · trivial
    · dsimp only
      cases hfind : (w.strike "load").2.conversations.find? key with
      | none => trivial
      | some c => exact ConversationTable.key_of_find? hfind
  | _ => trivial

theorem messages_answer (now : Instant) (r : Request) (w : World) :
    (answer now r w).2.messages = w.messages.next ⟨r, (answer now r w).1⟩ := by
  cases r with
  | recordMessage m =>
    dsimp only [answer, guarded]
    split <;> rfl
  | saveConversation c =>
    dsimp only [answer, save]
    split <;> rfl
  | claimDay c =>
    dsimp only [answer, guarded, claim]
    split
    · rfl
    · split <;> rfl
  | channel account =>
    dsimp only [answer, guarded, channel?]
    split
    · rfl
    · split <;> rfl
  | send token phone m =>
    dsimp only [answer, accept]
    split <;> rfl
  | _ => first | rfl | (dsimp only [answer, guarded]; split <;> rfl)

/-- Rehearsed stores answer by what they hold. -/
theorem truthful_history (now : Instant) {α : Type} : ∀ (p : Service α) (w : World),
    w.messages.Truthful (p.history (answer now) w)
  | .done _, _ => trivial
  | Program.ask r next, w => by
    refine ⟨answers_answer now r w, ?_⟩
    rw [← messages_answer]
    exact truthful_history now (next _) _

end World

/-! ## How a reply is handled -/

/-- What the look-up of the record of a quoted message comes to. -/
inductive LookedUp (quoted : Option String) :
    History → Except DeliveryError (Option SentMessage) → Prop
  | unquoted (hq : quoted = none ∨ quoted = some "") : LookedUp quoted [] (.ok none)
  | found (messageId : String) (hq : quoted = some messageId) (hne : messageId ≠ "")
    (record : Option SentMessage) :
    LookedUp quoted [⟨.findMessage messageId, .ok record⟩] (.ok record)
  | failed (messageId : String) (hq : quoted = some messageId) (hne : messageId ≠ "")
    (err : RecordError) : LookedUp quoted [⟨.findMessage messageId, .error err⟩]
      (.error (.persistence (Text.report (ChainError.lookup (Text.report err.message)).message)))

theorem lookedUp_of_runs {quoted : Option String} {h : History}
    {r : Except DeliveryError (Option SentMessage)}
    (run : Program.Runs
      (persisting (Ownership.find quoted) fun err => Text.report err.message) h r) :
    LookedUp quoted h r := by
  cases quoted with
  | none =>
    obtain ⟨rfl, rfl⟩ := run
    exact .unquoted (.inl rfl)
  | some messageId =>
    by_cases hne : messageId = ""
    · subst hne
      obtain ⟨rfl, rfl⟩ := run
      exact .unquoted (.inr rfl)
    · have quotes : (some messageId).filter (fun id => !id.isEmpty) = some messageId := by
        simp [hne]
      unfold Ownership.find at run
      rw [quotes] at run
      obtain ⟨answer, h', rfl, rest⟩ := run
      cases answer with
      | error err =>
        obtain ⟨rfl, rfl⟩ := rest
        exact .failed messageId rfl hne err
      | ok record =>
        obtain ⟨rfl, rfl⟩ := rest
        exact .found messageId rfl hne record

namespace ServiceSettings

variable (s : ServiceSettings)

/-- The workflows that may take a reply, by the record of the message it quotes. -/
def allowed (workflows : List Workflow) (record : Option SentMessage) : List Workflow :=
  workflows.filter fun w => (Ownership.of record w.id).mayHandle

/-- What becomes of a reply after the look-up of the record. -/
inductive Answered (workflows : List Workflow) (raw : Json) (now : Instant) (event : ReplyEvent) :
    Except DeliveryError (Option SentMessage) → History →
      Except DeliveryError DeliveryOutcome → Prop
  | unknown (err : DeliveryError) : Answered workflows raw now event (.error err) [] (.error err)
  | undated (record : Option SentMessage)
    (hf : s.clock.facts? event.phone event.title event.timestamp = none) :
    Answered workflows raw now event (.ok record) [] (.error .outOfCalendar)
  | offered (record : Option SentMessage) (facts : Facts) (h : History)
    (taken : Except DeliveryError Bool)
    (hf : s.clock.facts? event.phone event.title event.timestamp = some facts)
    (offered : EventScope.Offered ⟨s, facts, event.kind, raw, now⟩ event.replyId
      (allowed workflows record) h taken) :
    Answered workflows raw now event (.ok record) h (taken.map EventScope.replyOutcome)

theorem id_of_allowed {workflows : List Workflow} {m : SentMessage} {w : Workflow}
    (hw : w ∈ allowed workflows (some m)) : w.id = m.workflowId := by
  by_cases own : m.workflowId = w.id
  · exact own.symm
  · have may := (List.mem_filter.1 hw).2
    rw [Ownership.of, if_neg own] at may
    cases may

variable {s} {account : AccountId} {workflows : List Workflow} {raw : Json} {now : Instant}
  {event : ReplyEvent}

/-- A reply is handled in no other way. -/
theorem answered_of_runs {h : History} {r : Except DeliveryError DeliveryOutcome}
    (run : Program.Runs (s.handleEvent account workflows raw now (.reply event)) h r) :
    ∃ g looked g', h = g ++ g' ∧ LookedUp event.quotedId g looked
      ∧ s.Answered workflows raw now event looked g' r := by
  dsimp only [handleEvent] at run
  rcases runs_bind run with ⟨g, record, g', rfl, looked, rest⟩ | ⟨err, looked, rfl⟩
  · refine ⟨g, .ok record, g', rfl, lookedUp_of_runs looked, ?_⟩
    cases hf : s.clock.facts? event.phone event.title event.timestamp with
    | none =>
      rw [hf] at rest
      obtain ⟨rfl, rfl⟩ := rest
      exact .undated record hf
    | some facts =>
      rw [hf] at rest
      obtain ⟨taken, rfl, offered⟩ := EventScope.offered_of_runs_handleReply rest
      exact .offered record facts g' taken hf offered
  · exact ⟨h, .error err, [], (List.append_nil h).symm, lookedUp_of_runs looked, .unknown err⟩

theorem facts?_phone {clock : LocalClock} {phone : String} {text : Option String}
    {timestamp : Instant} {facts : Facts} (h : clock.facts? phone text timestamp = some facts) :
    facts.phone = phone := by
  obtain ⟨date, -, rfl⟩ := Option.map_eq_some_iff.1 h
  rfl

/-- At most one of the workflows that may take a reply runs a chain for it. -/
theorem oneChain_of_answered {record : Option SentMessage} {h : History}
    {r : Except DeliveryError DeliveryOutcome}
    (answered : s.Answered workflows raw now event (.ok record) h r) :
    OneChain event.phone event.replyId (allowed workflows record) h := by
  cases answered with
  | undated record hf => exact ⟨[], none, _, rfl, List.forall_mem_nil _, trivial⟩
  | offered record facts h taken hf offered =>
    have one := EventScope.oneChain_of_offered offered
    rwa [facts?_phone hf] at one

end ServiceSettings

/-! ## What is done while the record is a workflow's -/

/-- While a message is recorded as a workflow's, what a program does is on behalf of the workflow,
and no lock is left. -/
def ActsFor {α : Type} (messageId : String) (id : WorkflowId) (p : Service α) : Prop :=
  ∀ (t : SentMessageTable) h a, p.Runs h a → t.Truthful h → t.Owned messageId id →
    Along lockAfter (OnBehalf id) none h ∧ h.foldl lockAfter none = none

section ActsFor

variable {α β : Type} {messageId : String} {id : WorkflowId}

theorem ActsFor.done {a : α} : ActsFor messageId id (.done a : Service α) := by
  rintro t h b ⟨rfl, rfl⟩ - -
  exact ⟨trivial, rfl⟩

theorem ActsFor.ask {r : Request} (hl : ¬ r.Locks) (ha : ¬ r.Acts) :
    ActsFor messageId id (Service.ask r) := by
  intro t h a run _ _
  rw [Program.runs_request.1 run]
  exact along_of_unlocked (List.forall_mem_singleton.2 hl)
    (List.forall_mem_singleton.2 fun acts => absurd acts ha)

theorem ActsFor.bind {p : Service α} {f : α → Service β} (hp : ActsFor messageId id p)
    (hf : ∀ a, ActsFor messageId id (f a)) : ActsFor messageId id (p.bind f) := by
  intro t h b run truthful owned
  obtain ⟨h₁, a, h₂, rfl, run₁, run₂⟩ := Program.runs_bind.1 run
  obtain ⟨truthful₁, truthful₂⟩ := along_append.1 truthful
  obtain ⟨here, last⟩ := hp t h₁ a run₁ truthful₁ owned
  obtain ⟨later, last'⟩ := hf a _ h₂ b run₂ truthful₂ (SentMessageTable.owned_foldl here owned)
  rw [along_append, List.foldl_append, last]
  exact ⟨⟨here, later⟩, last'⟩

theorem DeliveryWork.actsFor_bind {w : DeliveryWork α} {f : α → DeliveryWork β}
    (hw : ActsFor messageId id w) (hf : ∀ a, ActsFor messageId id (f a)) :
    ActsFor messageId id (w >>= f : DeliveryWork β) := by
  rw [bind_eq]
  refine ActsFor.bind hw fun r => ?_
  cases r with
  | ok a => exact hf a
  | error e => exact .done

end ActsFor

/-- Every message of the delivery is a reply that quotes a message. -/
def Delivery.Quotes (d : Delivery) (messageId : String) : Prop :=
  ∀ raw ∈ InboundEvent.messages d.payload, ∃ event,
    InboundEvent.ofJson raw d.receivedAt = .reply event ∧ event.quotedId = some messageId

namespace ServiceSettings

variable (s : ServiceSettings) {messageId : String} {id : WorkflowId}

/-- Handles deliveries one after another, each whatever became of the others. -/
def handleAll : List Delivery → Service (List (Except DeliveryError DeliveryOutcome))
  | [] => pure []
  | d :: r => do
    let outcome ← (s.handle d).run
    let later ← handleAll r
    pure (outcome :: later)

/-- The record of the quoted message lets only the workflow that sent it act. -/
theorem actsFor_handleEvent (hne : messageId ≠ "") {event : ReplyEvent}
    (quotes : event.quotedId = some messageId) (account : AccountId) (workflows : List Workflow)
    (raw : Json) (now : Instant) :
    ActsFor messageId id (s.handleEvent account workflows raw now (.reply event)) := by
  intro t h r run truthful owned
  obtain ⟨g, looked, g', rfl, lookup, answered⟩ := answered_of_runs run
  rw [quotes] at lookup
  cases lookup with
  | unquoted hq =>
    rcases hq with hq | hq
    · cases hq
    · cases hq
      exact absurd rfl hne
  | failed _ hq _ err =>
    cases answered
    exact ⟨⟨nofun, trivial⟩, rfl⟩
  | found _ hq _ record =>
    cases hq
    obtain ⟨m, hm, rfl⟩ := owned
    obtain rfl : record = some m := truthful.1.trans hm
    cases answered with
    | undated record hf => exact ⟨⟨nofun, trivial⟩, rfl⟩
    | offered record facts h taken hf offered =>
      have keyed : ∀ x ∈ g', Keyed x := by
        intro x hx
        obtain ⟨t', ht'⟩ := Along.of_mem truthful.2 hx
        exact SentMessageTable.keyed_of_answers ht'
      obtain ⟨along, last⟩ := onBehalf_of_offered (fun _ => id_of_allowed) keyed offered
      exact ⟨⟨nofun, along⟩, last⟩

theorem actsFor_handleMessages (hne : messageId ≠ "") (account : AccountId)
    (workflows : List Workflow) (receivedAt : Instant) : ∀ (messages : List Json)
      (outcome : DeliveryOutcome), (∀ raw ∈ messages, ∃ event,
        InboundEvent.ofJson raw receivedAt = .reply event ∧ event.quotedId = some messageId) →
      ActsFor messageId id (s.handleMessages account workflows receivedAt messages outcome)
  | [], _, _ => .done
  | raw :: r, outcome, quotes => by
    obtain ⟨⟨event, hevent, hquoted⟩, rest⟩ := List.forall_mem_cons.1 quotes
    unfold handleMessages
    rw [hevent]
    exact actsFor_bind (s.actsFor_handleEvent hne hquoted account workflows raw receivedAt)
      fun next => actsFor_handleMessages hne account workflows receivedAt r _ rest

theorem actsFor_handle (hne : messageId ≠ "") {d : Delivery} (quotes : d.Quotes messageId) :
    ActsFor messageId id (s.handle d) := by
  have listed : ActsFor messageId id (persisting (Service.ask (.workflowsByToken d.account d.token))
      fun err => Text.report err.message) :=
    ActsFor.bind (ActsFor.ask False.elim False.elim) fun _ => .done
  refine actsFor_bind listed fun workflows => ?_
  split
  · exact .done
  · exact s.actsFor_handleMessages hne d.account workflows d.receivedAt _ _ quotes

theorem actsFor_handleAll (hne : messageId ≠ "") : ∀ {deliveries : List Delivery},
    (∀ d ∈ deliveries, d.Quotes messageId) → ActsFor messageId id (s.handleAll deliveries)
  | [], _ => .done
  | d :: r, quotes => by
    obtain ⟨first, rest⟩ := List.forall_mem_cons.1 quotes
    exact ActsFor.bind (s.actsFor_handle hne first) fun _ =>
      ActsFor.bind (actsFor_handleAll hne rest) fun _ => .done

/-- While the record of a message is a workflow's, a reply that quotes the message, once or
delivered again and again, has nothing done on behalf of another workflow. Whatever the record, a
reply is offered to the workflows that may take it in the order they are listed, that of their
making, and at most one of them runs a chain: the first that does not pass it on. -/
theorem owned_or_first (s : ServiceSettings) :
    (∀ (messageId : String) (id : WorkflowId) (t : SentMessageTable) (h : History),
      messageId ≠ "" → t.Owned messageId id → t.Truthful h →
        (∀ account workflows raw now (event : ReplyEvent) r, event.quotedId = some messageId →
          Program.Runs (s.handleEvent account workflows raw now (.reply event)) h r →
            Along lockAfter (OnBehalf id) none h)
        ∧ ∀ (deliveries : List Delivery) r, (∀ d ∈ deliveries, d.Quotes messageId) →
          Program.Runs (s.handleAll deliveries) h r → Along lockAfter (OnBehalf id) none h)
    ∧ ∀ account workflows raw now (event : ReplyEvent) h r,
      Program.Runs (s.handleEvent account workflows raw now (.reply event)) h r →
        ∃ g looked g', h = g ++ g' ∧ LookedUp event.quotedId g looked
          ∧ s.Answered workflows raw now event looked g' r
          ∧ ∀ record, looked = .ok record →
            OneChain event.phone event.replyId (allowed workflows record) g' := by
  constructor
  · intro messageId id t h hne owned truthful
    constructor
    · intro account workflows raw now event r quotes run
      have acts : ActsFor messageId id _ :=
        s.actsFor_handleEvent hne quotes account workflows raw now
      exact (acts t h r run truthful owned).1
    · intro deliveries r quotes run
      exact (s.actsFor_handleAll hne quotes t h r run truthful owned).1
  · intro account workflows raw now event h r run
    obtain ⟨g, looked, g', rfl, lookup, answered⟩ := answered_of_runs run
    refine ⟨g, looked, g', rfl, lookup, answered, fun record hrecord => ?_⟩
    rw [hrecord] at answered
    exact oneChain_of_answered answered

/-! Two workflows on a token. One has sent a message, the other's graph leads a reply to it on. -/

namespace SharedToken

def account : AccountId := ⟨⟨7⟩⟩

def moment : Instant := (Instant.ofSeconds? 1773016200).get rfl

def settings : ServiceSettings := ⟨⟨3600, by decide, by decide⟩, 7, .standard⟩

/-- The graph leads the reply to a greeting. -/
def taker : Workflow :=
  ⟨⟨⟨8⟩⟩, account, "Support", true, none, "token",
    .ofParts [⟨"hello", .text ⟨"Hello"⟩⟩] [.plain "menu" "hello" (some "yes")], moment, moment⟩

def owner : Workflow := ⟨⟨⟨9⟩⟩, account, "Bookings", true, none, "token", .empty, moment, moment⟩

def world (messageId : String) : World :=
  { World.empty with
    workflows := [taker, owner]
    messages := [⟨owner.id, messageId, "919800000001", "quickReply", moment⟩]
    channels := [⟨⟨⟨6⟩⟩, account, "token", true, true⟩] }

def message (messageId : String) : Json :=
  .obj [("chat_id", .str "919800000001@s.whatsapp.net"),
    ("context", .obj [("quoted_id", .str messageId)]),
    ("reply", .obj [("buttons_reply", .obj [("id", .str "yes")]), ("type", .str "buttons_reply")])]

def delivery (messageId : String) : Delivery :=
  ⟨account, "token", .obj [("messages", .arr [message messageId])], moment⟩

/-- What handling a reply that quotes the message asks. -/
def asked (messageId : String) : History :=
  (settings.handle (delivery messageId)).history (World.answer moment) (world messageId)

end SharedToken

open SharedToken in
/-- A reply that quotes the empty identifier is not looked up, so another workflow takes it than the
one whose message is recorded under it. Had the message an identifier, nobody would. -/
theorem emptyQuote_taken : (delivery "").Quotes "" ∧ (world "").messages.Owned "" owner.id
    ∧ (world "").messages.Truthful (asked "")
    ∧ Program.Runs (settings.handle (delivery "")) (asked "") (.ok .ok)
    ∧ (∃ h₁ entry r h₂, asked "" = h₁ ++ ⟨.appendLog entry, r⟩ :: h₂
      ∧ entry.workflowId = taker.id)
    ∧ ¬ Along lockAfter (OnBehalf owner.id) none (asked "")
    ∧ Program.Runs (settings.handle (delivery "wamid.1")) (asked "wamid.1") (.ok .notHandled) := by
  have quotes : (delivery "").Quotes "" := by
    intro raw hraw
    rw [List.mem_singleton.1 hraw]
    exact ⟨_, rfl, rfl⟩
  have truthful := World.truthful_history moment (settings.handle (delivery "")) (world "")
  have run := fun messageId => Program.runs_history (World.answer moment)
    (settings.handle (delivery messageId)) (world messageId)
  have logged : ∃ h₁ entry r h₂, asked "" = h₁ ++ ⟨.appendLog entry, r⟩ :: h₂
      ∧ entry.workflowId = taker.id :=
    ⟨(asked "").take 7, _, _, (asked "").drop 8, rfl, rfl⟩
  refine ⟨quotes, ⟨_, rfl, rfl⟩, truthful, run "", logged, fun along => ?_, run "wamid.1"⟩
  obtain ⟨h₁, entry, r, h₂, hasked, hentry⟩ := logged
  rw [hasked] at along
  have named : entry.workflowId = owner.id := (along.at trivial).2
  rw [hentry] at named
  exact absurd named (by decide)

end ServiceSettings

end Dialogue
