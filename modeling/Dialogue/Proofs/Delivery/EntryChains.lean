import Dialogue.Proofs.Delivery.Acknowledged
import Dialogue.Proofs.Delivery.Held
import Dialogue.Proofs.Delivery.Restarts
import Dialogue.Proofs.SideBySide
import Mathlib.Data.List.Nodup

/-!
# Entry chains side by side

The first text of a day starts the entry nodes of several workflows, and their chains run side by
side on the same stores. Each works on a conversation of its own, so whatever becomes of the others,
a chain that does not fail itself executes its entry node, writes its log and saves its conversation
(`EventScope.kept_of_firstDay`). Only after all of them have ended it is looked at who failed, and
the event fails exactly if a conversation could not be loaded or saved
(`EventScope.entryChains_isolated`).
-/

namespace Dialogue

open ConversationTable DeliveryWork

/-- The start of one of several workflows: what it asked, and how it ended. -/
structure EntryLeg where
  workflow : Workflow
  history : History
  result : Except DeliveryError Unit

namespace EntryLeg

/-- The failure of a leg. -/
def error? (l : EntryLeg) : Option DeliveryError :=
  match l.result with
  | .error err => some err
  | .ok _ => none

/-- The conversation of a leg could not be loaded or saved. -/
def FailedAtStore (l : EntryLeg) : Prop := ∃ x ∈ l.history, FailedLoad x ∨ FailedSave x

/-- What an event comes to whose chains have come to this: the first failure is told. -/
def dayResult (legs : List EntryLeg) : Except DeliveryError DeliveryOutcome :=
  match legs.findSome? error? with
  | some err => .error (.persistence (Text.report err.message))
  | none => .ok (if legs.isEmpty then .notHandled else .ok)

theorem error?_eq_some {l : EntryLeg} {err : DeliveryError} :
    l.error? = some err ↔ l.result = .error err := by
  unfold error?
  cases l.result <;> simp

theorem dayResult_error_iff {legs : List EntryLeg} :
    (∃ details, dayResult legs = .error (.persistence details))
      ↔ ∃ l ∈ legs, ∃ err, l.result = .error err := by
  unfold dayResult
  cases first : legs.findSome? error? with
  | some err =>
    obtain ⟨l, hl, failed⟩ := List.exists_of_findSome?_eq_some first
    exact iff_of_true ⟨_, rfl⟩ ⟨l, hl, err, error?_eq_some.1 failed⟩
  | none =>
    refine iff_of_false nofun ?_
    rintro ⟨l, hl, err, failed⟩
    have ended := List.findSome?_eq_none_iff.1 first l hl
    rw [error?_eq_some.2 failed] at ended
    cases ended

theorem dayResult_ok {legs : List EntryLeg} (ended : ∀ l ∈ legs, ¬ ∃ err, l.result = .error err) :
    dayResult legs = .ok (if legs.isEmpty then .notHandled else .ok) := by
  unfold dayResult
  rw [List.findSome?_eq_none_iff.2 fun l hl => ?_]
  exact Option.eq_none_iff_forall_ne_some.2 fun err failed =>
    ended l hl ⟨err, error?_eq_some.1 failed⟩

end EntryLeg

namespace EventScope

open EntryLeg

variable (e : EventScope)

/-- The first text of a day: no booking takes it, it claims its day, and the workflows that are
listed are started side by side, a leg each. -/
structure FirstDay (account : AccountId) (workflows : List Workflow) (body : String)
    (legs : List EntryLeg) (h : History) (r : Except DeliveryError DeliveryOutcome) : Prop where
  asked : ∃ g k, h = g ++ ⟨.claimDay ⟨account, e.facts.phone, e.facts.localDate⟩, .ok true⟩ ::
      ⟨.workflowsWithEntry account, .ok (legs.map (·.workflow))⟩ :: k
    ∧ Program.Runs (anyTakes (e.capture body) workflows) g (.ok false)
    ∧ SideBySide (legs.map (·.history)) k
  started : ∀ l ∈ legs, Program.Runs (e.startEntry l.workflow) l.history l.result
  result : r = dayResult legs

/-- Executing the entry node was stopped, which was logged. -/
def Stopped (w : Workflow) (node : Node) (h : History) : Prop :=
  ∃ loaded k err s id logged,
    h = e.locked w (e.entryAsked w loaded k (e.entryLog w s (some err) id) logged)
      ∧ ((e.chain w).execute node (.start (e.restarting w loaded))).Runs k (.error err, s)

/-- A workflow was started from what the stores held for it: its entry node was executed, and
nothing else; a log of success was written behind it; and what the stores hold in the end is the
conversation that the node has left. -/
structure Kept (w : Workflow) (node : Node) (h : History) (t t' : Stores) (k : History)
    (s : ChainState) (id : ExecutionLogId) (logged : Except RecordError Unit) : Prop where
  executed : ∃ next, ((e.chain w).execute node
    (.start (e.restarting w (t.conversations.find? (e.key w))))).Runs k (.ok next, s)
  asked : h = e.locked w (e.entryAsked w (t.conversations.find? (e.key w)) k
    (e.entryLog w s none id) logged ++ [⟨.saveConversation s.conversation, .ok ()⟩])
  saved : t'.conversations.find? (e.key w) = some s.conversation
  current : s.conversation.currentNodeId = some node.id
  cleared : s.conversation.context.RestartedAt node
  inLog : logged = .ok () → e.entryLog w s none id ∈ t'.log

variable {e} {account : AccountId} {workflows : List Workflow} {body : String}
  {legs : List EntryLeg} {h : History} {r : Except DeliveryError DeliveryOutcome}

/-! ## One after another -/

theorem legs_of_runs_startAll : ∀ {workflows : List Workflow} {h : History}
    {failed : Option DeliveryError}, (e.startAll workflows).Runs h failed →
      ∃ legs : List EntryLeg, legs.map (·.workflow) = workflows
        ∧ (∀ l ∈ legs, Program.Runs (e.startEntry l.workflow) l.history l.result)
        ∧ h = (legs.map (·.history)).flatten ∧ failed = legs.findSome? error?
  | [], h, failed, run => by
    obtain ⟨rfl, rfl⟩ := run
    exact ⟨[], rfl, List.forall_mem_nil _, rfl, rfl⟩
  | w :: workflows, h, failed, run => by
    obtain ⟨h₁, first, h, rfl, started, run⟩ := Program.runs_bind.1 run
    obtain ⟨h₂, later, h, rfl, others, rfl, rfl⟩ := Program.runs_bind.1 run
    obtain ⟨legs, rfl, runs, rfl, rfl⟩ := legs_of_runs_startAll others
    refine ⟨⟨w, h₁, first⟩ :: legs, rfl, List.forall_mem_cons.2 ⟨started, runs⟩, ?_, ?_⟩
    · rw [List.append_nil]
      rfl
    · cases first <;> rfl

theorem legs_of_runs_startDay {starting : List Workflow}
    (run : Program.Runs (e.startDay starting) h r) :
    ∃ legs : List EntryLeg, legs.map (·.workflow) = starting
      ∧ (∀ l ∈ legs, Program.Runs (e.startEntry l.workflow) l.history l.result)
      ∧ h = (legs.map (·.history)).flatten ∧ r = dayResult legs := by
  unfold startDay at run
  cases starting with
  | nil =>
    obtain ⟨rfl, rfl⟩ := run
    exact ⟨[], rfl, List.forall_mem_nil _, rfl, rfl⟩
  | cons w starting =>
    rcases runs_bind run with ⟨h₁, failed, h₂, rfl, started, ended⟩ | ⟨err, started, -⟩
    · obtain ⟨_, ⟨⟩, started⟩ := runs_lift started
      obtain ⟨legs, named, runs, rfl, rfl⟩ := legs_of_runs_startAll started
      have some_leg : legs.isEmpty = false := by
        cases legs with
        | nil => cases named
        | cons l legs => rfl
      have outcome : h₂ = [] ∧ r = dayResult legs := by
        unfold dayResult
        rw [some_leg]
        cases failed : legs.findSome? error? with
        | some err =>
          rw [failed] at ended
          exact ended
        | none =>
          rw [failed] at ended
          exact ended
      obtain ⟨rfl, rfl⟩ := outcome
      exact ⟨legs, named, runs, List.append_nil _, rfl⟩
    · obtain ⟨_, ⟨⟩, -⟩ := runs_lift started

/-- A text that is granted its day is a first text, whose chains run one after another. -/
theorem firstDay_of_runs_handleText
    (run : Program.Runs (e.handleText account workflows body) h r)
    (granted : ⟨.claimDay ⟨account, e.facts.phone, e.facts.localDate⟩, .ok true⟩ ∈ h)
    (listed : ∀ err, ⟨.workflowsWithEntry account, .error err⟩ ∉ h) :
    ∃ legs, e.FirstDay account workflows body legs h r := by
  have claimless := claimless_anyTakes (e.claimless_capture body) workflows
  have ungranted {g : History} {a : Except DeliveryError Bool}
      (offers : Program.Runs (anyTakes (e.capture body) workflows) g a) :
      ⟨.claimDay ⟨account, e.facts.phone, e.facts.localDate⟩, .ok true⟩ ∉ g :=
    fun hx => (claimless g a offers).1 _ hx trivial
  rcases runs_bind run with ⟨g, taken, h', rfl, offers, rest⟩ | ⟨err, offers, -⟩
  · cases taken with
    | true =>
      obtain ⟨rfl, -⟩ := rest
      rw [List.append_nil] at granted
      exact absurd granted (ungranted offers)
    | false =>
      rcases runs_bind rest with ⟨d, decision, k, rfl, decided, rest⟩ | ⟨err, decided, -⟩
      · obtain ⟨told, decided, hr⟩ := runs_persisting decided
        cases DayDecision.decided_of_runs decided with
        | unclaimed err => cases hr
        | unlisted err => cases hr
        | inquiry =>
          cases hr
          obtain ⟨rfl, -⟩ := rest
          simp [ungranted offers] at granted
        | first starting =>
          cases hr
          obtain ⟨legs, rfl, runs, rfl, rfl⟩ := legs_of_runs_startDay rest
          exact ⟨legs, ⟨⟨g, _, rfl, offers, sideBySide_flatten _⟩, runs, rfl⟩⟩
      · obtain ⟨told, decided, hr⟩ := runs_persisting decided
        cases DayDecision.decided_of_runs decided with
        | unclaimed err => simp [ungranted offers] at granted
        | unlisted err => exact absurd (by simp) (listed err)
        | inquiry => cases hr
        | first starting => cases hr
  · exact absurd granted (ungranted offers)

/-! ## Side by side -/

variable {t t' : Stores}

/-- The chains of a first text start from the conversations that were stored before. -/
theorem serves_of_firstDay (day : e.FirstDay account workflows body legs h r)
    (served : t.Serves h t') : ∃ (k : History) (u : Stores),
      SideBySide (legs.map (·.history)) k ∧ (∀ x ∈ k, x ∈ h)
      ∧ u.conversations = t.conversations ∧ u.Serves k t' := by
  obtain ⟨⟨g, k, rfl, offers, side⟩, -, -⟩ := day
  obtain ⟨u, before, v, ⟨-, rfl⟩, w, listed, chains⟩ := Stores.serves_append.1 served
  obtain rfl := before.eq_of_onlyReads (onlyReads_of_runs_captures offers)
  obtain rfl : w = _ := listed
  refine ⟨k, _, side, fun x hx => ?_, ?_, chains⟩
  · exact List.mem_append_right _ (List.mem_cons_of_mem _ (List.mem_cons_of_mem _ hx))
  · rfl

/-- What one chain finds and leaves for its conversation comes of it alone. -/
theorem held_of_firstDay (day : e.FirstDay account workflows body legs h r)
    (served : t.Serves h t') (distinct : (legs.map (·.workflow.id)).Nodup) {l : EntryLeg}
    (hl : l ∈ legs) :
    Along (heldAfter (e.key l.workflow)) (LoadsHeld (e.key l.workflow))
        (t.conversations.find? (e.key l.workflow)) l.history
      ∧ t'.conversations.find? (e.key l.workflow)
        = l.history.foldl (heldAfter (e.key l.workflow))
          (t.conversations.find? (e.key l.workflow)) := by
  obtain ⟨k, u, side, inside, same, served'⟩ := serves_of_firstDay day served
  obtain ⟨before, after, rfl⟩ := List.append_of_mem hl
  have keyed : ∀ m ∈ before ++ l :: after, ∀ x ∈ m.history, Keyed x := by
    intro m hm x hx
    have asked := side.mem_iff.2 ⟨m.history, List.mem_map_of_mem hm, hx⟩
    exact served.keyed x (inside x asked)
  have others : ∀ m ∈ before ++ after, m.workflow.id ≠ l.workflow.id := by
    intro m hm same
    rw [List.map_append, List.map_cons, List.nodup_middle, ← List.map_append] at distinct
    exact (List.nodup_cons.1 distinct).1 (List.mem_map.2 ⟨m, hm, same⟩)
  have silent : ∀ v ∈ before.map (·.history) ++ after.map (·.history), ∀ x ∈ v, ∀ held,
      heldAfter (e.key l.workflow) held x = held := by
    intro v hv x hx held
    rw [← List.map_append] at hv
    obtain ⟨m, hm, rfl⟩ := List.mem_map.1 hv
    have member : m ∈ before ++ l :: after :=
      List.perm_middle.mem_iff.2 (List.mem_cons_of_mem l hm)
    refine heldAfter_of_ne fun c saves same => ?_
    have own := key_of_saved (day.started m member) (keyed m member) x hx c saves
    exact others m hm (congrArg ConversationKey.workflowId (own.symm.trans same))
  obtain ⟨along, ends⟩ := served'.held (e.key l.workflow)
  rw [same] at along ends
  rw [List.map_append, List.map_cons] at side
  obtain ⟨own, alone⟩ := side.along silent along
  exact ⟨own, ends.trans alone⟩

/-- A start that is saved at the end was not stopped. -/
theorem not_stopped_of_saved {w : Workflow} {node : Node} {g : History} {c : Conversation}
    {saved : Except ConversationError Unit} :
    ¬ e.Stopped w node (e.locked w (g ++ [⟨.saveConversation c, saved⟩])) := by
  rintro ⟨loaded, k, err, s, id, logged, same, -⟩
  have inside := List.append_cancel_right (List.cons.inj same).2
  have logs : e.entryAsked w loaded k (e.entryLog w s (some err) id) logged
      = (⟨.loadConversation (e.key w), .ok loaded⟩ :: (k ++ [⟨.newLogId, id⟩]))
        ++ [⟨.appendLog (e.entryLog w s (some err) id), logged⟩] := by
    simp [entryAsked, entryLog, LogEntry.new]
  rw [logs] at inside
  cases (List.append_inj' inside rfl).2

/-- What is saved last under the lock is held behind it. -/
theorem foldl_locked_save {w : Workflow} {g : History} {c : Conversation}
    (own : c.key = e.key w) (held : Option Conversation) :
    (e.locked w (g ++ [⟨.saveConversation c, .ok ()⟩])).foldl (heldAfter (e.key w)) held
      = some c := by
  unfold locked
  rw [List.foldl_cons, List.foldl_append, List.foldl_append]
  exact if_pos own

/-- A start that was answered by what is held for its conversation, and whose log was kept, is kept
unless it failed. -/
theorem kept_of_restarted {w : Workflow} {node : Node} {g : History}
    {result : Except DeliveryError Unit} (restarted : e.Restarted w node g result)
    (along : Along (heldAfter (e.key w)) (LoadsHeld (e.key w)) (t.conversations.find? (e.key w))
      (e.locked w g))
    (ends : t'.conversations.find? (e.key w)
      = (e.locked w g).foldl (heldAfter (e.key w)) (t.conversations.find? (e.key w)))
    (own : ∀ x ∈ e.locked w g, ∀ c, x.1 = .saveConversation c → c.key = e.key w)
    (inLog : ∀ entry, ⟨.appendLog entry, .ok ()⟩ ∈ e.locked w g → entry ∈ t'.log) :
    (∃ x ∈ e.locked w g, FailedLoad x ∨ FailedSave x) ∨ e.Stopped w node (e.locked w g)
      ∨ ∃ k s id logged, e.Kept w node (e.locked w g) t t' k s id logged := by
  cases restarted with
  | unread err =>
    exact .inl ⟨_, mem_locked.2 (.inr (.inl List.mem_cons_self)), .inl ⟨_, err, rfl⟩⟩
  | stopped loaded k err s id logged ran =>
    exact .inr (.inl ⟨loaded, k, err, s, id, logged, rfl, ran⟩)
  | ended loaded k next s id logged saved ran =>
    have last : ⟨.saveConversation s.conversation, saved⟩ ∈ e.locked w
        (e.entryAsked w loaded k (e.entryLog w s none id) logged ++
          [⟨.saveConversation s.conversation, saved⟩]) :=
      mem_locked.2 (.inr (.inl (List.mem_append_right _ (List.mem_singleton_self _))))
    cases saved with
    | error err => exact .inl ⟨_, last, .inr ⟨_, err, rfl⟩⟩
    | ok a =>
      obtain rfl : loaded = t.conversations.find? (e.key w) := along.2.1 loaded rfl
      have entered := ChainScope.ended_of_runs_execute (.cleared node _) ran
      refine .inr (.inr ⟨k, s, id, logged, ⟨next, ran⟩, rfl, ?_, entered.1, entered.2, ?_⟩)
      · rw [ends]
        exact foldl_locked_save (own _ last _ rfl) _
      · rintro rfl
        refine inLog _ (mem_locked.2 (.inr (.inl ?_)))
        simp [entryAsked]

/-- A chain that does not fail is kept, whatever becomes of the others. -/
theorem kept_of_firstDay (day : e.FirstDay account workflows body legs h r)
    (served : t.Serves h t') (distinct : (legs.map (·.workflow.id)).Nodup) {l : EntryLeg}
    (hl : l ∈ legs) {node : Node} (named : l.workflow.entryNodeId = some node.id)
    (found : l.workflow.graph.node? node.id = some node) :
    l.FailedAtStore ∨ e.Stopped l.workflow node l.history
      ∨ ∃ k s id logged, e.Kept l.workflow node l.history t t' k s id logged := by
  obtain ⟨along, ends⟩ := held_of_firstDay day served distinct hl
  have asked : ∀ x ∈ l.history, x ∈ h := by
    obtain ⟨k, -, side, inside, -, -⟩ := serves_of_firstDay day served
    exact fun x hx => inside x (side.mem_iff.2 ⟨l.history, List.mem_map_of_mem hl, hx⟩)
  have own := key_of_saved (day.started l hl) fun x hx => served.keyed x (asked x hx)
  have inLog : ∀ entry, ⟨.appendLog entry, .ok ()⟩ ∈ l.history → entry ∈ t'.log :=
    fun entry hx => served.mem_log (asked _ hx)
  obtain ⟨g, hg, restarted⟩ := restarted_of_runs named found (day.started l hl)
  unfold EntryLeg.FailedAtStore
  rw [hg] at along ends own inLog ⊢
  exact kept_of_restarted restarted along ends own inLog

/-- The first text of a day starts the entry chains of the listed workflows side by side, in any
interleaving, one after another among them, and whatever the collaborators answer. Take a workflow
whose entry node exists: if its conversation could be loaded and saved and executing its entry node
was not stopped, then that node was executed alone, the log of it was appended, and what is stored
in the end is the conversation that stands at the node, in the middle of nothing but what the node
has begun, whatever became of the other workflows. The event fails for its storage exactly if the
conversation of some workflow could not be loaded or saved, and else it is answered. -/
theorem entryChains_isolated (e : EventScope) (account : AccountId) (workflows : List Workflow)
    (body : String) :
    (∀ h r, Program.Runs (e.handleText account workflows body) h r →
      ⟨.claimDay ⟨account, e.facts.phone, e.facts.localDate⟩, .ok true⟩ ∈ h →
      (∀ err, ⟨.workflowsWithEntry account, .error err⟩ ∉ h) →
        ∃ legs, e.FirstDay account workflows body legs h r)
    ∧ ∀ (legs : List EntryLeg) h r, e.FirstDay account workflows body legs h r →
      ∀ {t t' : Stores}, t.Serves h t' → (legs.map (·.workflow.id)).Nodup →
        (∀ l ∈ legs, ∀ node, l.workflow.entryNodeId = some node.id →
          l.workflow.graph.node? node.id = some node →
            l.FailedAtStore ∨ e.Stopped l.workflow node l.history
              ∨ ∃ k s id logged, e.Kept l.workflow node l.history t t' k s id logged)
        ∧ ((∃ details, r = .error (.persistence details)) ↔ ∃ l ∈ legs, l.FailedAtStore)
        ∧ ((∀ l ∈ legs, ¬ l.FailedAtStore) →
          r = .ok (if legs.isEmpty then .notHandled else .ok)) := by
  refine ⟨fun h r run granted listed => firstDay_of_runs_handleText run granted listed, ?_⟩
  intro legs h r day t t' served distinct
  have failed (l : EntryLeg) (hl : l ∈ legs) : l.FailedAtStore ↔ ∃ err, l.result = .error err :=
    failed_iff (day.started l hl)
  refine ⟨fun l hl node named found => kept_of_firstDay day served distinct hl named found, ?_, ?_⟩
  · rw [day.result, dayResult_error_iff]
    exact exists_congr fun l => and_congr_right fun hl => (failed l hl).symm
  · intro none
    rw [day.result]
    exact dayResult_ok fun l hl err => none l hl ((failed l hl).2 err)

end EventScope

/-! Three chains take turns. One greets, one is stopped at a node that cannot be executed, and the
conversation of the third cannot be loaded. -/

namespace ThreeStarts

def account : AccountId := ⟨⟨7⟩⟩

def phone : String := "919800000001"

def now : Instant := (Instant.ofSeconds? 1773388800).get rfl

def settings : ServiceSettings := ⟨⟨10800, by decide, by decide⟩, 7, .standard⟩

def event : EventScope :=
  ⟨settings, (settings.clock.facts? phone (some "Hi") now).get rfl, .text, .null, now⟩

def starting (id : WorkflowId) (node : Node) : Workflow :=
  { Workflow.new id account "Starting" "token" now with
    entryNodeId := some node.id
    graph := .ofParts [node] [] }

def hello : Node := ⟨"hello", .text ⟨"Hello"⟩⟩

def agent : Node := ⟨"agent", .unsupported "aiAgent" .unknownType⟩

def greeter : Workflow := starting ⟨⟨1⟩⟩ hello

def broken : Workflow := starting ⟨⟨2⟩⟩ agent

def unread : Workflow := starting ⟨⟨3⟩⟩ hello

/-- The participant's conversation with the greeter, in the middle of questions. -/
def former : Conversation :=
  { Conversation.new greeter.id phone now with
    currentNodeId := some "ask"
    context := ⟨[], none, some ⟨"ask", [], []⟩⟩ }

/-- What the greeter's chain has come to. -/
def greeted : ChainState :=
  ⟨(event.restarting greeter (some former)).advanceTo "hello" now,
    [⟨"hello", "textMessage", some "wamid.1"⟩], some "channel", none⟩

def sending : History :=
  [⟨.channel account, .ok (some ⟨⟨⟨6⟩⟩, account, "channel", true, true⟩)⟩,
    ⟨.send "channel" phone (.text "Hello"), .ok "wamid.1"⟩,
    ⟨.saveConversation greeted.conversation, .ok ()⟩]

/-- What the chain of the broken workflow is stopped by. -/
def stop : ChainError := .unsupportedNode "agent" "aiAgent" "unknown node type"

def greeting : EntryLeg :=
  ⟨greeter, event.locked greeter
    (event.entryAsked greeter (some former) sending (event.entryLog greeter greeted none ⟨⟨4⟩⟩)
      (.ok ()) ++ [⟨.saveConversation greeted.conversation, .ok ()⟩]), .ok ()⟩

def stopped : EntryLeg :=
  ⟨broken, event.locked broken
    (event.entryAsked broken none []
      (event.entryLog broken (.start (event.restarting broken none)) (some stop) ⟨⟨5⟩⟩) (.ok ())),
    .ok ()⟩

def unloaded : EntryLeg :=
  ⟨unread, event.locked unread
    [⟨.loadConversation (event.key unread), .error (.storage "down")⟩],
    .error (.persistence (Text.report (ConversationError.storage "down").message))⟩

def legs : List EntryLeg := [greeting, stopped, unloaded]

/-- What the text asks before the chains. -/
def offered : History :=
  event.locked greeter [⟨.loadConversation (event.key greeter), .ok (some former)⟩]

/-- What the text asks while the chains take turns. -/
def asked : History :=
  offered ++ ⟨.claimDay ⟨account, phone, event.facts.localDate⟩, .ok true⟩ ::
    ⟨.workflowsWithEntry account, .ok [greeter, broken, unread]⟩ ::
      (legs.map (·.history)).foldr byTurns []

def before : Stores := ⟨[former], [], [], [], .empty⟩

def after : Stores :=
  ⟨[greeted.conversation], [⟨account, phone, event.facts.localDate⟩], [],
    [event.entryLog greeter greeted none ⟨⟨4⟩⟩,
      event.entryLog broken (.start (event.restarting broken none)) (some stop) ⟨⟨5⟩⟩], .empty⟩

theorem runs_legs : ∀ l ∈ legs, Program.Runs (event.startEntry l.workflow) l.history l.result := by
  refine List.forall_mem_cons.2 ⟨?_, List.forall_mem_cons.2 ⟨?_, List.forall_mem_singleton.2 ?_⟩⟩
  · exact ⟨_, _, rfl, _, _, rfl, _, _, rfl, _, _, rfl, _, _, rfl, _, _, rfl, _, _, rfl, _, _, rfl,
      _, _, rfl, rfl, rfl⟩
  · exact ⟨_, _, rfl, _, _, rfl, _, _, rfl, _, _, rfl, _, _, rfl, rfl, rfl⟩
  · exact ⟨_, _, rfl, _, _, rfl, _, _, rfl, rfl, rfl⟩

theorem firstDay_legs :
    event.FirstDay account [greeter] "Hi" legs asked (EntryLeg.dayResult legs) := by
  have offers : Program.Runs (EventScope.anyTakes (event.capture "Hi") [greeter]) offered
      (.ok false) :=
    ⟨_, _, rfl, _, _, rfl, _, _, rfl, rfl, rfl⟩
  exact ⟨⟨offered, _, rfl, offers, sideBySide_byTurns _⟩, runs_legs, rfl⟩

theorem serves_asked : before.Serves asked after := by
  have granted : (⟨account, phone, event.facts.localDate⟩ : DayClaim) ∉ before.claims :=
    List.not_mem_nil
  refine Stores.serves_append.2 ⟨before, ⟨_, rfl, _, ⟨rfl, rfl⟩, _, rfl, rfl⟩, ?_⟩
  refine ⟨_, ⟨granted, rfl⟩, _, rfl, ?_⟩
  -- the three loads find what is held, or fail; everything else is kept as it comes
  exact ⟨_, rfl, _, rfl, _, ⟨rfl, rfl⟩, _, rfl, _, rfl, _, ⟨rfl, rfl⟩, _, rfl, _, rfl, _, rfl,
    _, rfl, _, rfl, _, rfl, _, rfl, _, rfl, _, rfl, _, rfl, _, rfl, rfl⟩

end ThreeStarts

open ThreeStarts in
/-- The greeter's chain ends at its greeting, though one chain is stopped and the event fails for
the conversation of another. -/
theorem EventScope.entryChains_threeStarts :
    event.FirstDay account [greeter] "Hi" legs asked (EntryLeg.dayResult legs)
      ∧ before.Serves asked after
      ∧ (∃ k s id logged, event.Kept greeter hello greeting.history before after k s id logged)
      ∧ event.Stopped broken agent stopped.history
      ∧ ∃ details, EntryLeg.dayResult legs = .error (.persistence details) := by
  have isolated := (entryChains_isolated event account [greeter] "Hi").2 legs asked _ firstDay_legs
    serves_asked (by decide)
  have starts : greeting ∈ legs := List.mem_cons_self
  refine ⟨firstDay_legs, serves_asked, ?_, ?_, ?_⟩
  · rcases isolated.1 greeting starts hello rfl rfl with failed | halted | kept
    · obtain ⟨err, ⟨⟩⟩ := (failed_iff (runs_legs greeting starts)).1 failed
    · exact absurd halted not_stopped_of_saved
    · exact kept
  · exact ⟨none, [], stop, _, ⟨⟨5⟩⟩, .ok (), rfl, rfl, rfl⟩
  · have failing : unloaded ∈ legs := List.mem_of_getElem? (i := 2) rfl
    exact isolated.2.1.2 ⟨unloaded, failing, (failed_iff (runs_legs _ failing)).2 ⟨_, rfl⟩⟩

end Dialogue
