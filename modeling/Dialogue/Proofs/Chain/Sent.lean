import Dialogue.Proofs.Chain.Boundary

/-!
# What a chain sent

The report of a chain is compared with the history of the chain: which messages the messaging
client accepted, which records were asked for, and whether a save failed. A node's part of a chain
adds a response for every message accepted in it and nothing else, asks for a record of every
interactive one of them, and fails for the storage exactly where a save failed (`Accounts`); this is
shown part by part. The history of a chain is that of its nodes, one leg after another, so the whole
report is that of its legs (`exists_legs_of_runs`).
-/

namespace Dialogue

/-- A message that the messaging client accepted, and the identifier it gave. -/
structure AcceptedMessage where
  message : OutboundMessage
  messageId : String

/-- The message that was accepted in an exchange. -/
def accepted? : Exchange Request.Answer → Option AcceptedMessage
  | ⟨.send _ _ message, .ok messageId⟩ => some ⟨message, messageId⟩
  | _ => none

/-- The record that was asked for in an exchange, whether it was kept or not. -/
def recorded? : Exchange Request.Answer → Option SentMessage
  | ⟨.recordMessage m, _⟩ => some m
  | _ => none

/-- The messages accepted in a history. -/
def accepted (h : List (Exchange Request.Answer)) : List AcceptedMessage := h.filterMap accepted?

/-- The records asked for in a history. -/
def recorded (h : List (Exchange Request.Answer)) : List SentMessage := h.filterMap recorded?

theorem accepted_append (h₁ h₂ : List (Exchange Request.Answer)) :
    accepted (h₁ ++ h₂) = accepted h₁ ++ accepted h₂ := List.filterMap_append

theorem recorded_append (h₁ h₂ : List (Exchange Request.Answer)) :
    recorded (h₁ ++ h₂) = recorded h₁ ++ recorded h₂ := List.filterMap_append

/-- The requests that neither send nor record nor save. -/
def Request.Silent : Request → Prop
  | .send _ _ _ | .recordMessage _ | .saveConversation _ => False
  | _ => True

section Silent

variable {h : List (Exchange Request.Answer)} (silent : ∀ x ∈ h, x.1.Silent)
include silent

theorem accepted_of_silent : accepted h = [] := by
  refine List.filterMap_eq_nil_iff.2 fun x hx => ?_
  have := silent x hx
  unfold accepted?
  split
  · exact this.elim
  · rfl

theorem recorded_of_silent : recorded h = [] := by
  refine List.filterMap_eq_nil_iff.2 fun x hx => ?_
  have := silent x hx
  unfold recorded?
  split
  · exact this.elim
  · rfl

theorem not_failedSave_of_silent : ∀ x ∈ h, ¬ FailedSave x := by
  rintro x hx ⟨c, err, rfl⟩
  exact silent _ hx

end Silent

namespace ChainScope

open ChainWork

/-- The responses for messages that were accepted from a node. -/
def responsesOf (node : Node) (l : List AcceptedMessage) : List SentResponse :=
  l.map fun a => ⟨node.id, node.kind.tag, some a.messageId⟩

/-- The records of the interactive ones among messages that were accepted from a node. -/
def recordsOf (e : ChainScope) (node : Node) (l : List AcceptedMessage) : List SentMessage :=
  (l.filter fun a => a.message.isInteractive).map fun a =>
    ⟨e.workflow.id, a.messageId, e.facts.phone, node.kind.tag, e.now⟩

variable {e : ChainScope} {node : Node} {α β : Type}

theorem responsesOf_append (l₁ l₂ : List AcceptedMessage) :
    responsesOf node (l₁ ++ l₂) = responsesOf node l₁ ++ responsesOf node l₂ := List.map_append

theorem recordsOf_append (l₁ l₂ : List AcceptedMessage) :
    e.recordsOf node (l₁ ++ l₂) = e.recordsOf node l₁ ++ e.recordsOf node l₂ := by
  unfold recordsOf
  rw [List.filter_append, List.map_append]

/-- Work ends for a failure of the storage exactly where a save failed. -/
def FailsAsSaved (h : List (Exchange Request.Answer)) (r : Except ChainError α × ChainState) :
    Prop :=
  (∃ x ∈ h, FailedSave x) ↔ ∃ err, r.1 = .error err ∧ err.isPersistence = true

section Fails

variable {h h₁ h₂ : List (Exchange Request.Answer)} {r : Except ChainError β × ChainState}

theorem FailsAsSaved.of_error {err : ChainError} {t u : ChainState}
    (fails : FailsAsSaved h ((.error err, t) : Except ChainError α × ChainState)) :
    FailsAsSaved h ((.error err, u) : Except ChainError β × ChainState) := by
  refine Iff.trans fails ⟨?_, ?_⟩
  · rintro ⟨err, ⟨⟩, saving⟩
    exact ⟨_, rfl, saving⟩
  · rintro ⟨err, ⟨⟩, saving⟩
    exact ⟨_, rfl, saving⟩

theorem FailsAsSaved.append {a : α} {t : ChainState} (first : FailsAsSaved h₁ (.ok a, t))
    (second : FailsAsSaved h₂ r) : FailsAsSaved (h₁ ++ h₂) r := by
  have kept : ¬ ∃ x ∈ h₁, FailedSave x := fun failed => by
    obtain ⟨err, ⟨⟩, -⟩ := first.1 failed
  refine Iff.trans ?_ second
  simp only [List.mem_append, or_and_right, exists_or, kept, false_or]

end Fails

/-- What a node's part of a chain comes to is what its history tells. -/
structure Accounts (e : ChainScope) (node : Node) (s : ChainState)
    (h : List (Exchange Request.Answer)) (r : Except ChainError α × ChainState) : Prop where
  responses : r.2.responses = s.responses ++ responsesOf node (accepted h)
  records : recorded h = e.recordsOf node (accepted h)
  fails : FailsAsSaved h r

/-- Whatever it is answered, work accounts for its history. -/
def Accountable (e : ChainScope) (node : Node) (w : ChainWork α) : Prop :=
  ∀ s h r, (w s).Runs h r → e.Accounts node s h r

/-- The responses stay as they are, and nothing is sent, recorded or saved. -/
def silent (responses : List SentResponse) :
    Contract ChainError ChainState Request.Answer where
  state s := s.responses = responses
  exchange x := x.1.Silent
  failure err := err.isPersistence = false

theorem accountable_of_silent {w : ChainWork α} {P : List SentResponse → α → Prop}
    (hw : ∀ responses, (silent responses).Keeps w (P responses)) : e.Accountable node w := by
  intro s h r run
  obtain ⟨quiet, same, hr⟩ := hw s.responses s rfl h r run
  refine ⟨?_, ?_, ?_⟩
  · rw [accepted_of_silent quiet]
    exact same.trans (List.append_nil _).symm
  · rw [accepted_of_silent quiet, recorded_of_silent quiet]
    rfl
  · refine ⟨fun ⟨x, hx, failed⟩ => absurd failed (not_failedSave_of_silent quiet x hx), ?_⟩
    rintro ⟨err, herr, saving⟩
    rw [herr] at hr
    have : err.isPersistence = false := hr
    rw [this] at saving
    cases saving

theorem accountable_pure {a : α} : e.Accountable node (pure a) :=
  accountable_of_silent (P := fun _ _ => True) fun _ => .pure trivial

theorem accountable_modify {f : ChainState → ChainState}
    (h : ∀ s, (f s).responses = s.responses) : e.Accountable node (modify f) :=
  accountable_of_silent fun _ => .modify fun s hs => (h s).trans hs

theorem Accountable.bind {w : ChainWork α} {f : α → ChainWork β} (hw : e.Accountable node w)
    (hf : ∀ a, e.Accountable node (f a)) : e.Accountable node (w >>= f) := by
  intro s h r run
  rw [Work.bind_apply] at run
  obtain ⟨h₁, ⟨a | a, t⟩, h₂, rfl, run₁, run₂⟩ := Program.runs_bind.1 run
  · obtain ⟨rfl, rfl⟩ := run₂
    rw [List.append_nil]
    obtain ⟨responses, records, fails⟩ := hw s h₁ _ run₁
    exact ⟨responses, records, fails.of_error⟩
  · have first := hw s h₁ _ run₁
    have second := hf a t h₂ r run₂
    refine ⟨?_, ?_, first.fails.append second.fails⟩
    · rw [second.responses, show t.responses = _ from first.responses, accepted_append,
        responsesOf_append, List.append_assoc]
    · rw [recorded_append, first.records, second.records, accepted_append, recordsOf_append]

/-! ## Sending -/

theorem silent_pacing (responses : List SentResponse) :
    (silent responses).Keeps pacing fun _ => True := by
  unfold pacing
  refine Contract.Keeps.get.bind fun s _ => ?_
  split
  · exact .pure trivial
  · refine (keeps_ask (r := .setting .messageDelay) fun _ => trivial).bind fun answer _ => ?_
    refine (Contract.Keeps.modify fun s hs => ?_).bind fun _ _ => .pure trivial
    exact hs

theorem silent_pace (responses : List SentResponse) :
    (silent responses).Keeps pace fun _ => True := by
  unfold pace
  refine Contract.Keeps.get.bind fun s _ => ?_
  split
  · exact .pure trivial
  · refine (silent_pacing responses).bind fun delay _ => ?_
    split
    · exact .pure trivial
    · exact keeps_ask (r := .pause delay) fun _ => trivial

theorem silent_token (responses : List SentResponse) :
    (silent responses).Keeps e.token fun _ => True := by
  unfold token
  refine Contract.Keeps.get.bind fun s _ => ?_
  split
  · exact .pure trivial
  · refine (keeps_asking (.ask fun a => ⟨trivial, .done trivial⟩) fun _ => rfl).bind
      fun found _ => ?_
    split
    · refine (Contract.Keeps.modify fun s hs => ?_).bind fun _ _ => .pure trivial
      exact hs
    · exact .throw rfl

theorem runs_send_bind {token phone : String} {message : OutboundMessage}
    {error : MessagingError → ChainError} {f : String → ChainWork β} {s : ChainState}
    {h : List (Exchange Request.Answer)} {r : Except ChainError β × ChainState}
    (run : ((asking (Service.ask (.send token phone message)) error >>= f) s).Runs h r) :
    (∃ messageId h', h = ⟨.send token phone message, .ok messageId⟩ :: h'
        ∧ (f messageId s).Runs h' r)
      ∨ ∃ err, h = [⟨.send token phone message, .error err⟩] ∧ r = (.error (error err), s) := by
  obtain ⟨err | messageId, h', rfl, run⟩ := run
  · obtain ⟨rfl, rfl⟩ := run
    exact .inr ⟨err, rfl, rfl⟩
  · exact .inl ⟨messageId, h', rfl, run⟩

/-- The response and the record come after the client has accepted the message. -/
theorem accountable_deliver (node : Node) (message : OutboundMessage) :
    e.Accountable node (e.deliver node message) := by
  unfold deliver send
  simp only [bind_assoc, pure_bind]
  refine (accountable_of_silent silent_pace).bind fun _ => ?_
  refine (accountable_of_silent silent_token).bind fun token => ?_
  intro s h r run
  rcases runs_send_bind run with ⟨messageId, h, rfl, rest⟩ | ⟨err, rfl, rfl⟩
  · rw [Work.modify_bind_apply] at rest
    split at rest
    · rename_i interactive
      obtain ⟨answer, h, rfl, rfl, rfl⟩ := rest
      refine ⟨rfl, ?_, ?_⟩
      · show [(_ : SentMessage)] = e.recordsOf node [⟨message, messageId⟩]
        simp [recordsOf, interactive]
      · simp [FailsAsSaved, FailedSave]
    · rename_i interactive
      obtain ⟨rfl, rfl⟩ := rest
      refine ⟨rfl, ?_, ?_⟩
      · show [] = e.recordsOf node [⟨message, messageId⟩]
        simp [recordsOf, interactive]
      · simp [FailsAsSaved, FailedSave]
  · refine ⟨(List.append_nil _).symm, rfl, ?_⟩
    simp [FailsAsSaved, FailedSave, ChainError.isPersistence]

theorem accountable_deliverAll (node : Node) : ∀ messages : List OutboundMessage,
    e.Accountable node (e.deliverAll node messages)
  | [] => accountable_pure
  | m :: r => (accountable_deliver node m).bind fun _ => accountable_deliverAll node r

/-! ## Executing a node -/

theorem accountable_saveAt (node : Node) : e.Accountable node (e.saveAt node) := by
  rintro s _ r ⟨answer, h, rfl, rfl, rfl⟩
  refine ⟨(List.append_nil _).symm, rfl, ?_⟩
  rcases answer with err | a
  · exact iff_of_true ⟨_, List.mem_singleton_self _, _, err, rfl⟩ ⟨_, rfl, rfl⟩
  · refine iff_of_false ?_ ?_
    · rintro ⟨x, hx, c, err, rfl⟩
      cases List.mem_singleton.1 hx
    · rintro ⟨err, ⟨⟩, -⟩

theorem accountable_deliverStep (node : Node) (step : FlowStep) :
    e.Accountable node (e.deliverStep node step) :=
  (accountable_saveAt node).bind fun _ =>
    (accountable_deliverAll node _).bind fun _ => accountable_pure

theorem accountable_ofBooking (node : Node) (w : BookingWork α) :
    e.Accountable node (ofBooking node.id w) := by
  refine accountable_of_silent (P := fun _ _ => True) fun responses s hs => ?_
  refine (Program.Ensures.trivial.embed fun q r _ => ?_).bind fun r _ => .done ⟨hs, ?_⟩
  · exact trivial
  · rcases r with ⟨err | a, c⟩
    · rfl
    · trivial

theorem accountable_callHttp (node : Node) (call : HttpCall) :
    e.Accountable node (e.callHttp node call) := by
  have silent_setting : e.Accountable node (ask (.setting .allowedDomains)) :=
    accountable_of_silent fun _ => keeps_ask fun _ => trivial
  unfold callHttp
  refine Accountable.bind (accountable_of_silent fun _ => Contract.Keeps.get) fun s => ?_
  refine silent_setting.bind fun allowed => Accountable.bind ?_ fun outcome => ?_
  · exact accountable_of_silent fun _ =>
      keeps_lift (Program.Ensures.trivial.embed fun request r _ => trivial)
  · refine Accountable.bind (accountable_modify ?_) fun _ => ?_
    · exact fun _ => rfl
    · exact (accountable_saveAt node).bind fun _ => accountable_pure

theorem accountable_execute (node : Node) : e.Accountable node (e.execute node) := by
  have sent (next : Option NodeId) : e.Accountable node (do
      e.sendOwn node
      e.saveAt node
      pure next) :=
    (accountable_deliverAll node _).bind fun _ =>
      (accountable_saveAt node).bind fun _ => accountable_pure
  unfold execute
  split
  · exact sent _
  · exact sent _
  · exact sent _
  · exact sent none
  · exact sent none
  · exact sent none
  · exact sent none
  · exact accountable_callHttp node _
  · exact (accountable_ofBooking node _).bind fun step => accountable_deliverStep node step
  · exact (accountable_ofBooking node _).bind fun step => accountable_deliverStep node step
  · exact accountable_of_silent (P := fun _ _ => True) fun _ => .throw rfl

theorem accountable_stage (node : Node) (step : Option FlowStep) :
    e.Accountable node (e.stage node step) := by
  cases step with
  | none => exact accountable_execute node
  | some step => exact accountable_deliverStep node step

end ChainScope

/-! ## Leg by leg -/

/-- A node that a chain begins, and the history until it begins the next one. -/
structure Leg where
  begins : Beginning
  history : List (Exchange Request.Answer)

namespace Leg

open Exchange

/-- The history behind a mark of the node. -/
def marked (l : Leg) : MarkedHistory := mark l.begins :: l.history.map unmarked

/-- The responses for the messages that were accepted in a leg. -/
def responses (l : Leg) : List SentResponse :=
  ChainScope.responsesOf l.begins.node (accepted l.history)

/-- The records of the interactive messages that were accepted in a leg. -/
def records (e : ChainScope) (l : Leg) : List SentMessage :=
  e.recordsOf l.begins.node (accepted l.history)

theorem exchanges_marked : ∀ legs : List Leg,
    exchanges (legs.flatMap marked) = legs.flatMap history
  | [] => rfl
  | l :: legs => by
    rw [List.flatMap_cons, List.flatMap_cons, exchanges_append, exchanges_marked legs]
    exact congrArg (· ++ _) (exchanges_map_unmarked l.history)

end Leg

namespace ChainScope

variable {e : ChainScope}

/-- The legs of a run from a state to a result account for the responses, the records and the
failure of the storage. -/
structure Toured (e : ChainScope) (s : ChainState) (legs : List Leg)
    (r : Except ChainError Unit × ChainState) : Prop where
  responses : r.2.responses = s.responses ++ legs.flatMap Leg.responses
  records : recorded (legs.flatMap Leg.history) = legs.flatMap (Leg.records e)
  fails : FailsAsSaved (legs.flatMap Leg.history) r

/-- A marked history is that of legs that account for the run. -/
def HasLegs (e : ChainScope) (s : ChainState) (h : MarkedHistory)
    (r : Except ChainError Unit × ChainState) : Prop :=
  ∃ legs : List Leg, h = legs.flatMap Leg.marked ∧ e.Toured s legs r

theorem hasLegs_nil {s : ChainState} {r : Except ChainError Unit × ChainState}
    (same : r.2.responses = s.responses) (fails : FailsAsSaved [] r) : e.HasLegs s [] r := by
  refine ⟨[], rfl, ?_, rfl, fails⟩
  rw [same]
  exact (List.append_nil _).symm

/-- A stage and what goes on from it. -/
theorem hasLegs_begun_bind {node : Node} {step : Option FlowStep} {s : ChainState}
    {on : Option NodeId → Work ChainError ChainState (Marked Request.Answer Beginning) Unit}
    (stop : on none = pure ())
    (go : ∀ next u h r, (on (some next) u).Runs h r → e.HasLegs u h r) {h : MarkedHistory}
    {r : Except ChainError Unit × ChainState} (run : ((e.begun node step >>= on) s).Runs h r) :
    e.HasLegs s h r := by
  rw [Work.bind_apply] at run
  obtain ⟨h₁, ⟨a, u⟩, h₂, rfl, begun, rest⟩ := Program.runs_bind.1 run
  obtain ⟨g, rfl, ran⟩ := Work.runs_marked.1 begun
  obtain ⟨responses, records, fails⟩ := accountable_stage node step s g _ ran
  rcases a with err | next
  · obtain ⟨rfl, rfl⟩ := rest
    refine ⟨[⟨⟨node, step, s⟩, g⟩], by simp [Leg.marked], ?_, ?_, ?_⟩
    · simpa [Leg.responses] using responses
    · simpa [Leg.records] using records
    · simpa using fails.of_error
  · obtain ⟨legs, rfl, toured⟩ : e.HasLegs u h₂ r := by
      cases next with
      | some next => exact go next u h₂ r rest
      | none =>
        dsimp only at rest
        rw [stop] at rest
        obtain ⟨rfl, rfl⟩ := rest
        exact hasLegs_nil rfl (by simp [FailsAsSaved])
    refine ⟨⟨⟨node, step, s⟩, g⟩ :: legs, rfl, ?_, ?_, fails.append toured.fails⟩
    · rw [toured.responses, show u.responses = _ from responses, List.append_assoc]
      rfl
    · rw [List.flatMap_cons, recorded_append, records, toured.records]
      rfl

theorem hasLegs_markedWalk : ∀ (budget : Nat) (id : NodeId) (s : ChainState) (h : MarkedHistory)
    (r : Except ChainError Unit × ChainState), (e.markedWalk budget id s).Runs h r →
      e.HasLegs s h r
  | 0, id, s, h, r => by
    unfold markedWalk
    cases e.workflow.graph.node? id with
    | none =>
      rintro ⟨rfl, rfl⟩
      exact hasLegs_nil rfl (by simp [FailsAsSaved])
    | some node =>
      rintro ⟨rfl, rfl⟩
      exact hasLegs_nil rfl (by simp [FailsAsSaved, ChainError.isPersistence])
  | budget + 1, id, s, h, r => by
    unfold markedWalk
    cases e.workflow.graph.node? id with
    | none =>
      rintro ⟨rfl, rfl⟩
      exact hasLegs_nil rfl (by simp [FailsAsSaved])
    | some node => exact hasLegs_begun_bind rfl (hasLegs_markedWalk budget)

theorem hasLegs_marked {start : ChainStart} {s : ChainState} {h : MarkedHistory}
    {r : Except ChainError Unit × ChainState} (run : (e.marked start s).Runs h r) :
    e.HasLegs s h r := by
  cases start with
  | node id => exact hasLegs_markedWalk _ id s h r run
  | entry id =>
    dsimp only [marked] at run
    cases hn : e.workflow.graph.node? id with
    | none =>
      rw [hn] at run
      obtain ⟨rfl, rfl⟩ := run
      exact hasLegs_nil rfl (by simp [FailsAsSaved])
    | some node =>
      rw [hn] at run
      refine hasLegs_begun_bind rfl (fun next u h r run => ?_) run
      obtain ⟨rfl, rfl⟩ := run
      exact hasLegs_nil rfl (by simp [FailsAsSaved])
  | flowStep id step =>
    dsimp only [marked] at run
    cases hn : e.workflow.graph.node? id with
    | none =>
      rw [hn] at run
      obtain ⟨rfl, rfl⟩ := run
      exact hasLegs_nil rfl (by simp [FailsAsSaved])
    | some node =>
      rw [hn] at run
      exact hasLegs_begun_bind rfl (hasLegs_markedWalk _) run

/-- Every history of a chain is that of legs, which the marked chain marks and which account for
what the chain has sent. -/
theorem exists_legs_of_runs {start : ChainStart} {s : ChainState}
    {g : List (Exchange Request.Answer)} {r : Except ChainError Unit × ChainState}
    (run : (e.drive start s).Runs g r) : ∃ legs : List Leg, g = legs.flatMap Leg.history
      ∧ (e.marked start s).Runs (legs.flatMap Leg.marked) r ∧ e.Toured s legs r := by
  rw [← erase_marked] at run
  obtain ⟨h, rfl, ran⟩ := Program.exists_runs_of_erase run
  obtain ⟨legs, rfl, toured⟩ := hasLegs_marked ran
  exact ⟨legs, Leg.exchanges_marked legs, ran, toured⟩

end ChainScope

end Dialogue
