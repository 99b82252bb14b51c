import Dialogue.Proofs.Chain.Calls
import Dialogue.Proofs.Delivery.AfterBooking
import Dialogue.Proofs.Delivery.Refusals

/-!
# A workflow that is started at its entry node

Whatever a conversation was in the middle of is over when its workflow is started at the entry node,
and the node is executed alone. `EventScope.Restarted` says all that this can come to: the
conversation cannot be loaded; or executing the node is stopped, which is logged and no more; or the
log is written and the conversation saved, or not. Executing a node to its end leaves the
conversation there, in the middle of nothing but what the node has begun
(`ChainScope.ended_of_runs_execute`).
-/

namespace Dialogue

open ConversationTable

/-- The exchange is a load that failed. -/
def FailedLoad (x : Exchange Request.Answer) : Prop :=
  ∃ key err, x = ⟨.loadConversation key, .error err⟩

/-- The booking that a node begins. -/
def Node.booking? (node : Node) : Option BookingProgress :=
  match node.kind with
  | .bookAppointment settings => some (.start node.id (.book settings) .selectDepartment)
  | .checkBookings settings => some (.start node.id (.check settings) .selectBooking)
  | _ => none

/-- The context is in the middle of nothing, but perhaps of a booking that a node has begun. -/
def Context.RestartedAt (node : Node) (c : Context) : Prop :=
  c.capture = none ∧ (c.booking = none ∨ c.booking = node.booking?)

namespace Context.RestartedAt

variable {node : Node} {c d : Context}

theorem cleared (node : Node) (c : Context) : c.clearProgress.RestartedAt node :=
  ⟨rfl, .inl rfl⟩

theorem congr (h : c.RestartedAt node) (same : SameProgress c d) : d.RestartedAt node := by
  obtain ⟨booking, capture⟩ := same
  refine ⟨capture.trans h.1, ?_⟩
  rw [booking]
  exact h.2

end Context.RestartedAt

/-! ## Executing a node to its end -/

namespace ChainScope

open Work ChainWork

variable {e : ChainScope} {node : Node} {s u : ChainState} {g : List (Exchange Request.Answer)}
  {next : Option NodeId}

theorem Begun.restartedAt {before after : Context} {p : BookingProgress} {step : FlowStep}
    (h : Begun before p step after) (begins : node.booking? = some p) : after.RestartedAt node := by
  rcases h with rfl | ⟨-, rfl⟩
  · exact .cleared node before
  · exact ⟨rfl, .inr begins.symm⟩

theorem ended_of_runs_booking {w : BookingWork FlowStep} {p : BookingProgress}
    (begun : Leaves (· = s.conversation.context) w (Begun s.conversation.context p) fun _ => True)
    (begins : node.booking? = some p)
    (run : (ofBooking node.id w >>= fun step => e.deliverStep node step) s |>.Runs g
      (.ok next, u)) :
    u.conversation.currentNodeId = some node.id ∧ u.conversation.context.RestartedAt node := by
  obtain ⟨step, x, left, -, moved, -⟩ := runs_booking begun run
  rw [moved]
  exact ⟨rfl, left.restartedAt begins⟩

/-- Executing a node to its end from a conversation that is in the middle of nothing leaves it at
the node, in the middle of nothing but what the node has begun. -/
theorem ended_of_runs_execute (idle : s.conversation.context.RestartedAt node)
    (run : (e.execute node s).Runs g (.ok next, u)) :
    u.conversation.currentNodeId = some node.id ∧ u.conversation.context.RestartedAt node := by
  have sent : ∀ n, ((do
      e.sendOwn node
      e.saveAt node
      pure n : ChainWork (Option NodeId)) s).Runs g (.ok next, u) →
        u.conversation.currentNodeId = some node.id
          ∧ u.conversation.context.RestartedAt node := by
    intro n run
    obtain ⟨-, moved, -⟩ := runs_sendOwn_saveAt run
    rw [moved]
    exact ⟨rfl, idle⟩
  obtain ⟨id, kind⟩ := node
  cases kind with
  | text content => exact sent _ run
  | media content => exact sent _ run
  | location content => exact sent _ run
  | quickReply content => exact sent none run
  | list content => exact sent none run
  | buttons content => exact sent none run
  | carousel content => exact sent none run
  | httpCall call =>
    obtain ⟨saved, -, _, _, outcome, _, -, -, noted⟩ := runs_callHttp run
    refine ⟨(saved []).current, ?_⟩
    rw [noted]
    exact idle.congr (sameProgress_noteOutcome _ _ outcome)
  | bookAppointment settings => exact ended_of_runs_booking (begun_startBooking _ _ _) rfl run
  | checkBookings settings => exact ended_of_runs_booking (begun_startCheck _ _ _) rfl run
  | unsupported tag reason => cases run.2

end ChainScope

/-! ## Starting a workflow -/

namespace EventScope

open DeliveryWork

variable (e : EventScope)

/-- The conversation that a workflow is started with, given the one that was loaded. -/
def restarting (w : Workflow) (loaded : Option Conversation) : Conversation :=
  (e.arrive (e.found w loaded)).clearProgress

/-- The log of a chain of a workflow that has come to a state. -/
def entryLog (w : Workflow) (s : ChainState) (error : Option ChainError) (id : ExecutionLogId) :
    LogEntry :=
  .new id w.id e.facts.phone e.kind e.raw s.responses (error.map ChainError.message) e.now

/-- What executing an entry node asked, and the log behind it. -/
def entryAsked (w : Workflow) (loaded : Option Conversation) (k : History) (entry : LogEntry)
    (logged : Except RecordError Unit) : History :=
  ⟨.loadConversation (e.key w), .ok loaded⟩ ::
    (k ++ [⟨.newLogId, entry.id⟩, ⟨.appendLog entry, logged⟩])

/-- What starting a workflow at its entry node comes to, between the lock and the unlock. -/
inductive Restarted (w : Workflow) (node : Node) : History → Except DeliveryError Unit → Prop
  | unread (err : ConversationError) : Restarted w node
      [⟨.loadConversation (e.key w), .error err⟩]
      (.error (.persistence (Text.report err.message)))
  | stopped (loaded : Option Conversation) (k : History) (err : ChainError) (s : ChainState)
    (id : ExecutionLogId) (logged : Except RecordError Unit)
    (ran : ((e.chain w).execute node (.start (e.restarting w loaded))).Runs k (.error err, s)) :
    Restarted w node (e.entryAsked w loaded k (e.entryLog w s (some err) id) logged)
      (if err.isPersistence then .error (.persistence err.message) else .ok ())
  | ended (loaded : Option Conversation) (k : History) (next : Option NodeId) (s : ChainState)
    (id : ExecutionLogId) (logged : Except RecordError Unit)
    (saved : Except ConversationError Unit)
    (ran : ((e.chain w).execute node (.start (e.restarting w loaded))).Runs k (.ok next, s)) :
    Restarted w node (e.entryAsked w loaded k (e.entryLog w s none id) logged ++
        [⟨.saveConversation s.conversation, saved⟩])
      (saved.mapError fun err =>
        .persistence (ChainError.saveFailed (Text.report err.message)).message)

variable {e} {w : Workflow} {node : Node} {h : History} {r : Except DeliveryError Unit}

theorem runs_startEntry {entry : NodeId} (named : w.entryNodeId = some entry)
    (run : Program.Runs (e.startEntry w) h r) : ∃ g, h = e.locked w g
      ∧ ((∃ err, g = [⟨.loadConversation (e.key w), .error err⟩]
          ∧ r = .error (.persistence (Text.report err.message)))
        ∨ ∃ loaded k, g = ⟨.loadConversation (e.key w), .ok loaded⟩ :: k
          ∧ Program.Runs (e.runChain w (e.restarting w loaded) (.entry entry)) k r) := by
  unfold startEntry at run
  rw [named] at run
  obtain ⟨a, b, g, rfl, inside⟩ := runs_withLock run
  refine ⟨g, rfl, ?_⟩
  rw [loadOrNew_bind] at inside
  obtain ⟨answer, k, rfl, rest⟩ := inside
  cases answer with
  | error err =>
    obtain ⟨rfl, rfl⟩ := rest
    exact .inl ⟨err, rfl, rfl⟩
  | ok loaded => exact .inr ⟨loaded, k, rfl, rest⟩

/-- A chain that is started at an entry node executes it and does nothing else. -/
theorem runs_run_entry {s : ChainScope} (found : s.workflow.graph.node? node.id = some node)
    {c d : Conversation} {report : ChainReport}
    (run : (s.run c (.entry node.id)).Runs h (report, d)) :
    ∃ a t, (s.execute node (.start c)).Runs h (a, t) ∧ report.responses = t.responses
      ∧ report.error = ChainScope.errorOf (a.map fun _ => ()) ∧ d = t.conversation := by
  obtain ⟨g, ⟨a, t⟩, k, rfl, driven, rfl, ended⟩ := Program.runs_bind.1 run
  dsimp only [ChainScope.drive] at driven
  rw [found] at driven
  obtain ⟨b, executed, rfl⟩ := Work.runs_map driven
  obtain ⟨rfl, rfl⟩ := Prod.mk.inj ended
  exact ⟨b, t, by rwa [List.append_nil], rfl, rfl, rfl⟩

theorem restarted_of_runs (named : w.entryNodeId = some node.id)
    (found : w.graph.node? node.id = some node) (run : Program.Runs (e.startEntry w) h r) :
    ∃ g, h = e.locked w g ∧ e.Restarted w node g r := by
  obtain ⟨g, rfl, ⟨err, rfl, rfl⟩ | ⟨loaded, k, rfl, chain⟩⟩ := runs_startEntry named run
  · exact ⟨_, rfl, .unread err⟩
  · refine ⟨_, rfl, ?_⟩
    rw [runChain_eq] at chain
    obtain ⟨k, ⟨⟨responses, error⟩, d⟩, g, rfl, ran, finished⟩ := Program.runs_bind.1 chain
    obtain ⟨a, s, executed, hresponses, herror, rfl⟩ := runs_run_entry found ran
    obtain ⟨id, logged, rest, rfl, ended⟩ := e.runs_finish finished
    obtain rfl : responses = s.responses := hresponses
    obtain rfl : error = _ := herror
    cases a with
    | error err =>
      obtain ⟨rfl, rfl⟩ := ended
      exact .stopped loaded k err s id logged executed
    | ok next =>
      obtain ⟨saved, rfl, rfl⟩ := ended
      have done := Restarted.ended (e := e) loaded k next s id logged saved executed
      unfold entryAsked at done
      rwa [List.cons_append, List.append_assoc] at done

theorem mem_locked {g : History} {x : Exchange Request.Answer} : x ∈ e.locked w g ↔
    x = ⟨.lock (e.key w), ()⟩ ∨ x ∈ g ∨ x = ⟨.unlock (e.key w), ()⟩ := by
  unfold locked
  rw [List.mem_cons, List.mem_append, List.mem_singleton]

theorem key_restarting {loaded : Option Conversation}
    (keyed : Keyed ⟨.loadConversation (e.key w), .ok loaded⟩) :
    (e.restarting w loaded).key = e.key w := by
  cases loaded with
  | none => rfl
  | some c => exact keyed _ c rfl

/-- Starting a workflow saves nothing but its own conversation. -/
theorem key_of_saved (run : Program.Runs (e.startEntry w) h r) (keyed : ∀ x ∈ h, Keyed x) :
    ∀ x ∈ h, ∀ c, x.1 = .saveConversation c → c.key = e.key w := by
  cases named : w.entryNodeId with
  | none =>
    unfold startEntry at run
    rw [named] at run
    obtain ⟨rfl, -⟩ := run
    exact List.forall_mem_nil _
  | some entry =>
    obtain ⟨g, rfl, inside⟩ := runs_startEntry named run
    have own : ∀ x ∈ g, ∀ c, x.1 = .saveConversation c → c.key = e.key w := by
      obtain ⟨err, rfl, -⟩ | ⟨loaded, k, rfl, chain⟩ := inside
      · exact List.forall_mem_singleton.2 fun _ saves => nomatch saves
      · have key : (e.restarting w loaded).key = e.key w :=
          key_restarting (keyed _ (mem_locked.2 (.inr (.inl List.mem_cons_self))))
        have asks := e.asks_runChain ((e.chain w).fresh (e.key w)) (fun _ => trivial)
          (fun _ => ⟨id, fun _ saves => nomatch saves⟩)
          (fun _ _ _ => ⟨id, fun _ saves => nomatch saves⟩) ⟨key, fun p hp => by cases hp⟩
          (.entry entry)
        refine List.forall_mem_cons.2 ⟨fun _ saves => (nomatch saves), ?_⟩
        exact fun x hx c saves => (((asks k r chain).1 x hx).2 c saves).1
    intro x hx
    rcases mem_locked.1 hx with rfl | hx | rfl
    · exact fun _ saves => nomatch saves
    · exact own x hx
    · exact fun _ saves => nomatch saves

theorem stored_of_vital (run : Program.Runs (e.startEntry w) h r) :
    ∀ x ∈ h, Vital x → FailedLoad x ∨ FailedSave x := by
  have load : Asks (fun x => Vital x → FailedLoad x ∨ FailedSave x) (e.load w) := by
    refine asks_persisting (.ask fun r => ?_)
    cases r with
    | error err => exact fun _ => .inl ⟨_, err, rfl⟩
    | ok loaded => exact False.elim
  have chain (c : Conversation) (start : ChainStart) :
      Asks (fun x => Vital x → FailedLoad x ∨ FailedSave x) (e.runChain w c start) := by
    intro k a ran
    have saves := (e.asks_runChain (e.chain w).savesOnly (fun _ => trivial) (fun _ => False.elim)
      (fun _ _ _ => False.elim) trivial start k a ran).1
    exact ⟨fun x hx vital => .inr (saves x hx vital), trivial⟩
  have asks : Asks (fun x => Vital x → FailedLoad x ∨ FailedSave x) (e.startEntry w) := by
    unfold startEntry
    split
    · exact asks_pure
    · refine asks_withLock (fun _ => False.elim) (fun _ => False.elim) ?_
      exact asks_bind (asks_bind load fun _ => asks_pure) fun c => chain _ _
  exact (asks h r run).1

/-- Starting a workflow fails exactly if its conversation could not be loaded or saved. -/
theorem failed_iff (run : Program.Runs (e.startEntry w) h r) :
    (∃ x ∈ h, FailedLoad x ∨ FailedSave x) ↔ ∃ err, r = .error err := by
  rw [← (e.candid_startEntry w).failsAtVital h r run]
  constructor
  · rintro ⟨x, hx, ⟨key, err, rfl⟩ | failed⟩
    · exact ⟨_, hx, trivial⟩
    · exact ⟨x, hx, failed.vital⟩
  · rintro ⟨x, hx, vital⟩
    exact ⟨x, hx, stored_of_vital run x hx vital⟩

end EventScope

end Dialogue
