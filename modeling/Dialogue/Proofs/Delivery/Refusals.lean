import Dialogue.Proofs.Delivery.Logged
import Dialogue.Proofs.Delivery.Owned
import Mathlib.Data.List.Basic

/-!
# Which failures refuse a delivery

Ten collaborators can fail while a delivery is handled. Only six kinds of calls are vital: to look
up workflows, by their token or with an entry node, to load and to save a conversation, to claim a
day, and to look up a message that was sent. A delivery is refused for its storage exactly where
one of these failed, so whatever happens to the messaging client, the channels, the settings, the
calls, the appointments, the log and the records, it is answered
(`ServiceSettings.answered_or_refused`).

The history of each part of the work tells how the part ends (`Candid`), and a chain's tells it by
the saves that failed (`EventScope.candid_runChain`).
-/

namespace Dialogue

/-- The exchange failed, and the delivery cannot be handled without it. -/
def Vital : Exchange Request.Answer → Prop
  | ⟨.workflowsByToken _ _, .error _⟩ | ⟨.workflowsWithEntry _, .error _⟩
  | ⟨.loadConversation _, .error _⟩ | ⟨.saveConversation _, .error _⟩
  | ⟨.claimDay _, .error _⟩ | ⟨.findMessage _, .error _⟩ => True
  | _ => False

theorem FailedSave.vital {x : Exchange Request.Answer} (h : FailedSave x) : Vital x := by
  obtain ⟨c, err, rfl⟩ := h
  trivial

/-- Of the vital calls a chain makes only those that save. -/
def ChainScope.savesOnly (e : ChainScope) : NodeContract e where
  conversation _ := True
  exchange x := Vital x → FailedSave x
  failure _ := True
  advance _ _ _ := trivial
  set _ _ _ _ := trivial
  clear _ _ := trivial
  start _ _ _ _ := trivial
  ask x hx := by
    intro vital
    unfold Vital at vital
    split at vital <;> exact False.elim ‹_›
  save c r _ := by
    rcases r with err | a
    · exact fun _ => ⟨c, err, rfl⟩
    · exact False.elim
  fail _ _ := trivial

/-- A program fails exactly if a vital call fails in it. -/
def FailsAtVital {α ε : Type} (p : Service (Except ε α)) : Prop :=
  ∀ h r, p.Runs h r → ((∃ x ∈ h, Vital x) ↔ ∃ err, r = .error err)

/-- What a history tells of a result, where an event may be out of the calendar. -/
def Tells {α : Type} (outside : Prop) (h : History) : Except DeliveryError α → Prop
  | .ok _ => ∀ x ∈ h, ¬ Vital x
  | .error (.persistence _) => ∃ x ∈ h, Vital x
  | .error .outOfCalendar => outside ∧ ∀ x ∈ h, ¬ Vital x
  | .error .unauthorized => False

/-- Whatever it is answered, work ends as its history tells. -/
def Candid {α : Type} (outside : Prop) (w : DeliveryWork α) : Prop :=
  ∀ h r, Program.Runs w h r → Tells outside h r

namespace Tells

variable {α β : Type} {outside : Prop} {h h₁ h₂ : History} {r : Except DeliveryError α}

theorem append {a : β} (first : Tells outside h₁ (.ok a : Except DeliveryError β))
    (second : Tells outside h₂ r) : Tells outside (h₁ ++ h₂) r := by
  have first : ∀ x ∈ h₁, ¬ Vital x := first
  have both (second : ∀ x ∈ h₂, ¬ Vital x) : ∀ x ∈ h₁ ++ h₂, ¬ Vital x := by
    intro x hx
    rcases List.mem_append.1 hx with hx | hx
    · exact first x hx
    · exact second x hx
  rcases r with (_ | details | _) | b
  · exact second
  · obtain ⟨x, hx, vital⟩ := second
    exact ⟨x, List.mem_append_right _ hx, vital⟩
  · exact ⟨second.1, both second.2⟩
  · exact both second

theorem of_error {err : DeliveryError}
    (tells : Tells outside h (.error err : Except DeliveryError α)) :
    Tells outside h (.error err : Except DeliveryError β) := by
  cases err <;> exact tells

/-- Only vital calls count. -/
theorem congr (tells : Tells outside h₁ r) (same : ∀ x, Vital x → (x ∈ h₂ ↔ x ∈ h₁)) :
    Tells outside h₂ r := by
  have none (kept : ∀ x ∈ h₁, ¬ Vital x) : ∀ x ∈ h₂, ¬ Vital x :=
    fun x hx vital => kept x ((same x vital).1 hx) vital
  rcases r with (_ | details | _) | b
  · exact tells
  · obtain ⟨x, hx, vital⟩ := tells
    exact ⟨x, (same x vital).2 hx, vital⟩
  · exact ⟨tells.1, none tells.2⟩
  · exact none tells

theorem mono {outside' : Prop} (tells : Tells outside h r) (wider : outside → outside') :
    Tells outside' h r := by
  rcases r with (_ | details | _) | b
  · exact tells
  · exact tells
  · exact ⟨wider tells.1, tells.2⟩
  · exact tells

theorem ok (tells : Tells outside h r) (inside : ¬ outside) (kept : ∀ x ∈ h, ¬ Vital x) :
    ∃ a, r = .ok a := by
  rcases r with (_ | details | _) | a
  · exact tells.elim
  · obtain ⟨x, hx, vital⟩ := tells
    exact absurd vital (kept x hx)
  · exact absurd tells.1 inside
  · exact ⟨a, rfl⟩

theorem persistence_iff (tells : Tells outside h r) :
    (∃ details, r = .error (.persistence details)) ↔ ∃ x ∈ h, Vital x := by
  have kept (none : ∀ x ∈ h, ¬ Vital x) : ¬ ∃ x ∈ h, Vital x :=
    fun ⟨x, hx, vital⟩ => none x hx vital
  rcases r with (_ | details | _) | a
  · exact tells.elim
  · exact ⟨fun _ => tells, fun _ => ⟨details, rfl⟩⟩
  · exact ⟨nofun, fun failed => absurd failed (kept tells.2)⟩
  · exact ⟨nofun, fun failed => absurd failed (kept tells)⟩

theorem ne_unauthorized (tells : Tells outside h r) : r ≠ .error .unauthorized := by
  rintro rfl
  exact tells

end Tells

namespace Candid

open DeliveryWork

variable {α β ε : Type} {outside : Prop} {w : DeliveryWork α}

theorem pure {a : α} : Candid outside (Pure.pure a : DeliveryWork α) := by
  rintro h r ⟨rfl, rfl⟩
  exact List.forall_mem_nil _

theorem outOfCalendar (h : outside) :
    Candid outside (throw .outOfCalendar : DeliveryWork α) := by
  rintro g r ⟨rfl, rfl⟩
  exact ⟨h, List.forall_mem_nil _⟩

theorem bind {f : α → DeliveryWork β} (hw : Candid outside w)
    (hf : ∀ a, Candid outside (f a)) : Candid outside (w >>= f) := by
  intro h r run
  rcases runs_bind run with ⟨h₁, a, h₂, rfl, run₁, run₂⟩ | ⟨err, run₁, rfl⟩
  · exact (hw h₁ _ run₁).append (hf a h₂ r run₂)
  · exact (hw h _ run₁).of_error

theorem mono {outside' : Prop} (hw : Candid outside w) (wider : outside → outside') :
    Candid outside' w := fun h r run => (hw h r run).mono wider

/-- Work that makes no vital call. -/
theorem lift {p : Service α} (hp : Asks (fun x => ¬ Vital x) p) :
    Candid outside (ExceptT.lift p : DeliveryWork α) := by
  intro h r run
  obtain ⟨a, rfl, ran⟩ := runs_lift run
  exact (hp h a ran).1

theorem persisting {p : Service (Except ε α)} {text : ε → String} (hp : FailsAtVital p) :
    Candid outside (DeliveryWork.persisting p text) := by
  intro h r run
  obtain ⟨h, a, g, rfl, ran, rfl, rfl⟩ := Program.runs_bind.1 run
  have told := hp h a ran
  rw [List.append_nil]
  rcases a with err | a
  · exact told.2 ⟨err, rfl⟩
  · intro x hx vital
    obtain ⟨err, ⟨⟩⟩ := told.1 ⟨x, hx, vital⟩

theorem withLock {key : ConversationKey} (hw : Candid outside w) :
    Candid outside (DeliveryWork.withLock key w) := by
  intro h r run
  obtain ⟨a, b, g, rfl, ran⟩ := runs_withLock run
  refine (hw g r ran).congr fun x vital => ?_
  have not_lock : x ≠ ⟨.lock key, a⟩ := fun hx => by rw [hx] at vital; exact vital
  have not_unlock : x ≠ ⟨.unlock key, b⟩ := fun hx => by rw [hx] at vital; exact vital
  simp [not_lock, not_unlock]

/-- Work that fails for nothing but its storage. -/
theorem failsAtVital (hw : Candid False w) : FailsAtVital w := by
  intro h r run
  have told := hw h r run
  rw [← told.persistence_iff]
  constructor
  · rintro ⟨details, rfl⟩
    exact ⟨_, rfl⟩
  · rintro ⟨_ | details | _, rfl⟩
    · exact told.elim
    · exact ⟨details, rfl⟩
    · exact told.1.elim

end Candid

namespace EventScope

open DeliveryWork

variable (e : EventScope) {outside : Prop}

theorem candid_load (w : Workflow) : Candid outside (e.load w) := by
  refine .persisting ?_
  rintro _ r ⟨_, h, rfl, rfl, rfl⟩
  cases r <;> simp [Vital]

theorem candid_loadOrNew (w : Workflow) : Candid outside (e.loadOrNew w) :=
  (e.candid_load w).bind fun _ => .pure

theorem candid_save (c : Conversation) : Candid outside (save c) := by
  refine .persisting ?_
  rintro _ r ⟨_, h, rfl, rfl, rfl⟩
  cases r <;> simp [Vital]

/-- A failure to write the log is passed over, and so is what stopped a chain. -/
theorem candid_finish (w : Workflow) {report : ChainReport} (c : Conversation)
    (passed : ∀ err, report.error = some err → err.isPersistence = false) :
    Candid outside (e.finish w report c) := by
  unfold finish
  refine .bind (.lift (.ask fun _ => id)) fun _ => .bind (.lift (.ask fun _ => id)) fun _ => ?_
  split
  · rename_i err herr
    rw [passed err herr]
    exact .pure
  · exact candid_save c

/-- A chain is stopped for its storage exactly if it could not save, and then the delivery is
refused. -/
theorem candid_runChain (w : Workflow) (c : Conversation) (start : ChainStart) :
    Candid outside (e.runChain w c start) := by
  intro h r run
  rw [runChain_eq] at run
  obtain ⟨g, ⟨report, d⟩, k, rfl, ran, finished⟩ := Program.runs_bind.1 run
  obtain ⟨legs, a, s, -, -, error, -, -, fails⟩ := ChainScope.exists_legs_of_runs_run ran
  have saves : ∀ x ∈ g, Vital x → FailedSave x :=
    ((e.chain w).savesOnly.ensures_run (fun _ => trivial) trivial start g _ ran).1
  by_cases failed : ∃ x ∈ g, FailedSave x
  · obtain ⟨err, rfl, persistence⟩ := fails.1 failed
    obtain ⟨x, hx, failed⟩ := failed
    obtain ⟨id, logged, rest, rfl, ended⟩ := e.runs_finish finished
    rw [show report.error = some err from error] at ended
    obtain ⟨rfl, rfl⟩ := ended
    rw [if_pos persistence]
    exact ⟨x, List.mem_append_left _ hx, failed.vital⟩
  · have kept : ∀ x ∈ g, ¬ Vital x := fun x hx vital => failed ⟨x, hx, saves x hx vital⟩
    refine Tells.append (a := ()) kept (e.candid_finish w d (fun err herr => ?_) k r finished)
    rcases a with a | a
    · obtain rfl : a = err := Option.some.inj (error.symm.trans herr)
      exact Bool.eq_false_iff.2 fun saving => failed (fails.2 ⟨a, rfl, saving⟩)
    · cases error.symm.trans herr

theorem candid_finishBooking (w : Workflow) (c : Conversation) (node : NodeId)
    (err : BookingError) : Candid outside (e.finishBooking w c node err) := by
  refine e.candid_finish w c ?_
  rintro _ ⟨⟩
  rfl

/-- Taking an event is done once the chain or the log is. -/
theorem candid_then_true {v : DeliveryWork Unit} (hv : Candid outside v) :
    Candid outside (do
      v
      pure true : DeliveryWork Bool) :=
  hv.bind fun _ => .pure

theorem candid_booking {α : Type} (c : Conversation) (work : BookingWork α) :
    Candid outside (booking c work) := by
  refine .bind (.lift fun h r run => ⟨?_, trivial⟩) fun _ => .pure
  obtain ⟨g, rfl, -⟩ := runs_ofBooking.1 run
  intro x hx
  obtain ⟨y, -, rfl⟩ := List.mem_map.1 hx
  exact id

/-! ## Texts -/

theorem candid_captureIn (w : Workflow) (text : String) (c : Conversation)
    (p : BookingProgress) : Candid outside (e.captureIn w text c p) := by
  refine (candid_booking c _).bind ?_
  rintro ⟨err | _ | step, d⟩
  · exact candid_then_true (e.candid_finishBooking w d p.nodeId err)
  · exact .pure
  · exact candid_then_true (e.candid_runChain w _ _)

theorem candid_capture (text : String) (w : Workflow) :
    Candid outside (e.capture text w) := by
  refine .withLock ((e.candid_load w).bind fun found => ?_)
  cases found with
  | none => exact .pure
  | some c =>
    dsimp only
    split
    · exact e.candid_captureIn w text c _
    · exact .pure

theorem candid_startEntry (w : Workflow) : Candid outside (e.startEntry w) := by
  unfold startEntry
  split
  · exact .pure
  · exact .withLock ((e.candid_loadOrNew w).bind fun c => e.candid_runChain w _ _)

/-- Every workflow is started, and a failure of any of them is told. -/
theorem failed_startAll : ∀ (workflows : List Workflow) (h : History) (r : Option DeliveryError),
    (e.startAll workflows).Runs h r → ((∃ x ∈ h, Vital x) ↔ ∃ err, r = some err)
  | [], h, r, run => by
    obtain ⟨rfl, rfl⟩ := run
    simp
  | w :: rest, h, r, run => by
    obtain ⟨h₁, first, h, rfl, started, run⟩ := Program.runs_bind.1 run
    obtain ⟨h₂, later, h, rfl, others, rfl, rfl⟩ := Program.runs_bind.1 run
    have here := (e.candid_startEntry w).failsAtVital h₁ first started
    have there := failed_startAll rest h₂ later others
    rw [List.append_nil]
    simp only [List.mem_append, or_and_right, exists_or, here, there]
    cases first <;> simp

theorem candid_startDay (workflows : List Workflow) :
    Candid outside (e.startDay workflows) := by
  unfold startDay
  split
  · exact .pure
  · intro h r run
    rcases runs_bind run with ⟨h₁, first, h₂, rfl, started, ended⟩ | ⟨err, started, -⟩
    · obtain ⟨_, ⟨⟩, started⟩ := runs_lift started
      have told := e.failed_startAll workflows h₁ first started
      cases first with
      | none =>
        obtain ⟨rfl, rfl⟩ := ended
        intro x hx vital
        rw [List.append_nil] at hx
        obtain ⟨err, ⟨⟩⟩ := told.1 ⟨x, hx, vital⟩
      | some err =>
        obtain ⟨rfl, rfl⟩ := ended
        rw [List.append_nil]
        exact told.2 ⟨err, rfl⟩
    · obtain ⟨_, ⟨⟩, -⟩ := runs_lift started

theorem candid_anyTakes {offer : Workflow → DeliveryWork Bool}
    (offers : ∀ w, Candid outside (offer w)) : ∀ workflows : List Workflow,
      Candid outside (anyTakes offer workflows)
  | [] => .pure
  | w :: rest => by
    refine (offers w).bind fun taken => ?_
    cases taken with
    | true => exact .pure
    | false => exact candid_anyTakes offers rest

end EventScope

/-- A day is decided unless it cannot be claimed or its workflows cannot be found. -/
theorem DayDecision.failsAtVital_decide (account : AccountId) (phone : String) (date : Date) :
    FailsAtVital (DayDecision.decide account phone date) := by
  rintro _ r ⟨claimed, h, rfl, run⟩
  rcases claimed with err | _ | _
  · obtain ⟨rfl, rfl⟩ := run
    simp [Vital]
  · obtain ⟨rfl, rfl⟩ := run
    simp [Vital]
  · obtain ⟨found, h, rfl, run⟩ := run
    rcases found with err | workflows
    · obtain ⟨rfl, rfl⟩ := run
      simp [Vital]
    · obtain ⟨rfl, rfl⟩ := run
      simp [Vital]

theorem Ownership.failsAtVital_find (quoted : Option String) :
    FailsAtVital (Ownership.find quoted) := by
  intro h r run
  unfold find at run
  split at run
  · obtain ⟨rfl, rfl⟩ := run
    simp
  · obtain ⟨found, h, rfl, run⟩ := run
    rcases found with err | record
    · obtain ⟨rfl, rfl⟩ := run
      simp [Vital]
    · obtain ⟨rfl, rfl⟩ := run
      simp [Vital]

namespace EventScope

open DeliveryWork

variable (e : EventScope) {outside : Prop}

theorem candid_handleText (account : AccountId) (workflows : List Workflow) (body : String) :
    Candid outside (e.handleText account workflows body) := by
  refine (candid_anyTakes (e.candid_capture body) workflows).bind fun captured => ?_
  cases captured with
  | true => exact .pure
  | false =>
    refine .bind (.persisting (DayDecision.failsAtVital_decide _ _ _)) fun decision => ?_
    cases decision with
    | inquiry => exact .pure
    | first starting => exact e.candid_startDay starting

/-! ## Replies -/

theorem candid_routeByGraph (w : Workflow) (replyId : String) (c : Conversation) :
    Candid outside (e.routeByGraph w replyId c) := by
  unfold routeByGraph
  split
  · exact .pure
  · exact candid_then_true (e.candid_runChain w _ _)

theorem candid_routeInBooking (w : Workflow) (replyId : String) (c : Conversation)
    (p : BookingProgress) : Candid outside (e.routeInBooking w replyId c p) := by
  rw [routeInBooking_eq]
  refine (candid_booking c _).bind ?_
  rintro ⟨err | _ | _ | step, d⟩
  · exact candid_then_true (e.candid_finishBooking w d p.nodeId err)
  · exact e.candid_routeByGraph w replyId d
  · exact (candid_save d).bind fun _ => e.candid_routeByGraph w replyId d
  · exact candid_then_true (e.candid_runChain w _ _)

theorem candid_route (replyId : String) (w : Workflow) :
    Candid outside (e.route replyId w) := by
  refine .withLock ((e.candid_loadOrNew w).bind fun c => ?_)
  split
  · exact e.candid_routeInBooking w replyId c _
  · exact e.candid_routeByGraph w replyId c

theorem candid_handleReply (workflows : List Workflow) (record : Option SentMessage)
    (replyId : String) : Candid outside (e.handleReply workflows record replyId) := by
  refine (candid_anyTakes (e.candid_route replyId) _).bind fun taken => ?_
  cases taken <;> exact .pure

end EventScope

/-- When an event that is handled took place. -/
def InboundEvent.timestamp? : InboundEvent → Option Instant
  | .ignorable _ => none
  | .text event => some event.timestamp
  | .reply event => some event.timestamp

theorem WorkflowList.byToken_eq_nil_iff {l : WorkflowList} {account : AccountId} {token : String} :
    l.byToken account token = []
      ↔ ¬ ∃ w ∈ l, w.accountId = account ∧ w.isActive = true ∧ w.webhookToken = token := by
  simp [WorkflowList.byToken, and_assoc]

namespace ServiceSettings

open DeliveryWork

variable (s : ServiceSettings)

/-- The calendar has the local date of an event. -/
def HasDate (event : InboundEvent) : Prop :=
  ∀ time, event.timestamp? = some time → (s.clock.date? time).isSome = true

/-- The calendar has the local date of every event of a delivery. -/
def Dated (d : Delivery) : Prop :=
  ∀ raw ∈ InboundEvent.messages d.payload, s.HasDate (.ofJson raw d.receivedAt)

theorem not_hasDate_of_facts? {event : InboundEvent} {phone : String} {text : Option String}
    {time : Instant} (htime : event.timestamp? = some time)
    (undated : s.clock.facts? phone text time = none) : ¬ s.HasDate event := by
  intro dated
  have hdate := dated time htime
  rw [Option.map_eq_none_iff.1 undated] at hdate
  cases hdate

theorem candid_handleEvent (account : AccountId) (workflows : List Workflow) (raw : Json)
    (now : Instant) : ∀ event : InboundEvent,
      Candid (¬ s.HasDate event) (s.handleEvent account workflows raw now event)
  | .ignorable _ => .pure
  | .text event => by
    dsimp only [handleEvent]
    split
    · exact EventScope.candid_handleText _ account workflows event.body
    · rename_i undated
      exact .outOfCalendar (s.not_hasDate_of_facts? rfl undated)
  | .reply event => by
    refine .bind (.persisting (Ownership.failsAtVital_find _)) fun record => ?_
    split
    · exact EventScope.candid_handleReply _ workflows record event.replyId
    · rename_i undated
      exact .outOfCalendar (s.not_hasDate_of_facts? rfl undated)

theorem candid_handleMessages (account : AccountId) (workflows : List Workflow)
    (receivedAt : Instant) : ∀ (messages : List Json) (outcome : DeliveryOutcome),
      Candid (¬ ∀ raw ∈ messages, s.HasDate (.ofJson raw receivedAt))
        (s.handleMessages account workflows receivedAt messages outcome)
  | [], _ => .pure
  | raw :: r, outcome => by
    have first := s.candid_handleEvent account workflows raw receivedAt (.ofJson raw receivedAt)
    refine (first.mono fun undated dated => ?_).bind fun next =>
      (candid_handleMessages account workflows receivedAt r _).mono fun undated dated => ?_
    · exact undated (dated raw List.mem_cons_self)
    · exact undated fun raw hraw => dated raw (List.mem_cons_of_mem _ hraw)

/-- What becomes of a delivery once its workflows were looked up. -/
def handleFound (d : Delivery) : Except WorkflowError (List Workflow) →
    DeliveryWork DeliveryOutcome
  | .error err => throw (.persistence (Text.report err.message))
  | .ok [] => throw .unauthorized
  | .ok workflows =>
    s.handleMessages d.account workflows d.receivedAt (InboundEvent.messages d.payload) .ignored

theorem handle_eq (d : Delivery) : @Eq (DeliveryWork DeliveryOutcome) (s.handle d)
    ((Service.ask (.workflowsByToken d.account d.token)).bind (s.handleFound d)) := by
  refine congrArg (Program.ask _) (funext ?_)
  rintro (err | _ | ⟨w, ws⟩) <;> rfl

section Found

variable {σ : Type} (answer : (r : Request) → σ → r.Answer × σ) (d : Delivery) (world : σ)

/-- A delivery goes on with the workflows that were looked up. -/
theorem run_handle_eq : Program.run answer (s.handle d) world
    = Program.run answer (s.handleFound d (answer (.workflowsByToken d.account d.token) world).1)
      (answer (.workflowsByToken d.account d.token) world).2 :=
  congrArg (Program.run answer · world) (s.handle_eq d)

theorem history_handle_eq : Program.history answer (s.handle d) world
    = ⟨.workflowsByToken d.account d.token,
        (answer (.workflowsByToken d.account d.token) world).1⟩
      :: Program.history answer
        (s.handleFound d (answer (.workflowsByToken d.account d.token) world).1)
        (answer (.workflowsByToken d.account d.token) world).2 :=
  congrArg (Program.history answer · world) (s.handle_eq d)

end Found

theorem tells_handleFound {d : Delivery} {listed : Except WorkflowError (List Workflow)}
    (unempty : listed ≠ .ok []) {h : History} {r : Except DeliveryError DeliveryOutcome}
    (run : Program.Runs (s.handleFound d listed) h r) :
    Tells (¬ s.Dated d) (⟨.workflowsByToken d.account d.token, listed⟩ :: h) r := by
  rcases listed with err | _ | ⟨w, ws⟩
  · obtain ⟨rfl, rfl⟩ := run
    exact ⟨_, List.mem_cons_self, trivial⟩
  · exact absurd rfl unempty
  · have handled := s.candid_handleMessages d.account (w :: ws) d.receivedAt _ _ h r run
    refine handled.congr fun x vital => ?_
    have not_listed : x ≠ ⟨.workflowsByToken d.account d.token, .ok (w :: ws)⟩ := by
      rintro rfl
      exact vital
    rw [List.mem_cons, or_iff_right not_listed]

/-- Whatever the collaborators answer: a delivery whose events have local dates is answered if its
token is one of some workflow and no vital call failed; it is refused for its storage exactly if a
vital call failed; and it is refused as unauthorized exactly if the workflows were looked up and
there are none. Then nothing else was asked, of stores or of anybody, and that is so exactly if no
active workflow of the account listens to the token. -/
theorem answered_or_refused {σ : Type} (s : ServiceSettings) (d : Delivery)
    (answer : (r : Request) → σ → r.Answer × σ) (world : σ) :
    let handled := Program.run answer (s.handle d) world
    let h := Program.history answer (s.handle d) world
    let found := answer (.workflowsByToken d.account d.token) world
    (s.Dated d → found.1 ≠ Except.ok [] → (∀ x ∈ h, ¬ Vital x) →
      ∃ outcome, handled.1 = .ok outcome)
    ∧ ((∃ details, handled.1 = .error (.persistence details)) ↔ ∃ x ∈ h, Vital x)
    ∧ (handled.1 = .error .unauthorized ↔ found.1 = Except.ok [])
    ∧ (handled.1 = .error .unauthorized → handled.2 = found.2
      ∧ h = [⟨.workflowsByToken d.account d.token, Except.ok []⟩])
    ∧ ∀ l : WorkflowList, found.1 = Except.ok (l.byToken d.account d.token) →
      (handled.1 = .error .unauthorized ↔
        ¬ ∃ w ∈ l, w.accountId = d.account ∧ w.isActive = true ∧ w.webhookToken = d.token) := by
  intro handled h found
  have handled_eq : handled = Program.run answer (s.handleFound d found.1) found.2 :=
    congrArg (Program.run answer · world) (s.handle_eq d)
  have h_eq : h = ⟨.workflowsByToken d.account d.token, found.1⟩ ::
      Program.history answer (s.handleFound d found.1) found.2 :=
    congrArg (Program.history answer · world) (s.handle_eq d)
  have run := Program.runs_history answer (s.handleFound d found.1) found.2
  have listed (l : WorkflowList) (hl : found.1 = Except.ok (l.byToken d.account d.token)) :
      found.1 = Except.ok [] ↔
        ¬ ∃ w ∈ l, w.accountId = d.account ∧ w.isActive = true ∧ w.webhookToken = d.token := by
    rw [hl, ← WorkflowList.byToken_eq_nil_iff]
    exact ⟨Except.ok.inj, congrArg Except.ok⟩
  by_cases empty : found.1 = Except.ok []
  · rw [empty] at handled_eq h_eq
    have refused : handled.1 = .error .unauthorized := congrArg Prod.fst handled_eq
    refine ⟨fun _ unempty => absurd empty unempty, ?_, iff_of_true refused empty,
      fun _ => ⟨congrArg Prod.snd handled_eq, h_eq⟩,
      fun l hl => (iff_of_true refused empty).trans (listed l hl)⟩
    rw [refused, h_eq]
    refine ⟨nofun, ?_⟩
    rintro ⟨x, hx, vital⟩
    rw [List.mem_singleton.1 hx] at vital
    exact vital.elim
  · have tells := s.tells_handleFound empty run
    rw [← h_eq, ← handled_eq] at tells
    have unauthorized := iff_of_false tells.ne_unauthorized empty
    exact ⟨fun dated _ kept => tells.ok (not_not_intro dated) kept, tells.persistence_iff,
      unauthorized, fun refused => absurd refused tells.ne_unauthorized,
      fun l hl => unauthorized.trans (listed l hl)⟩

namespace SharedToken

/-- The provider takes no message, and the log cannot be written. -/
def mute : World :=
  { world "wamid.1" with stage := { BookingStage.empty with faults := ⟨["send", "log"], []⟩ } }

end SharedToken

open SharedToken in
/-- The reply starts a chain that can neither send nor log, and is answered all the same. -/
theorem answered_mute :
    (∃ token phone m err, ⟨.send token phone m, .error err⟩
      ∈ (settings.handle (delivery "wamid.2")).history (World.answer moment) mute)
    ∧ ∃ outcome, (Program.run (World.answer moment) (settings.handle (delivery "wamid.2"))
      mute).1 = .ok outcome := by
  have told := answered_or_refused settings (delivery "wamid.2") (World.answer moment) mute
  have dated : settings.Dated (delivery "wamid.2") := by
    intro raw hraw time htime
    rw [List.mem_singleton.1 hraw] at htime
    cases htime
    rfl
  have kept : List.Forall (fun x => ¬ Vital x)
      ((settings.handle (delivery "wamid.2")).history (World.answer moment) mute) :=
    ⟨id, id, id, id, id, id, id, id, id⟩
  refine ⟨⟨_, _, _, _, List.mem_of_getElem? (i := 5) rfl⟩, ?_⟩
  exact told.1 dated nofun (List.forall_iff_forall_mem.1 kept)

end ServiceSettings

end Dialogue
