import Dialogue.Proofs.Chain.Contract
import Dialogue.Proofs.Conversation.Stored
import Dialogue.Proofs.Marks

/-!
# Between the nodes of a chain

A chain marks every node it begins, with the state it begins it in; without its marks it is the
chain (`erase_marked`). Executing a node to an end that goes on saves the conversation the chain
goes on with (`saved_of_runs`), in whatever order the node sends, saves and changes the context. So
at every node behind the first the store holds the conversation of the chain, and since a save that
fails ends the chain, nothing is done on a conversation that is not stored (`boundaries_saved`).
-/

namespace Dialogue

/-- The exchange is a save that failed. -/
def FailedSave (x : Exchange Request.Answer) : Prop :=
  ∃ c err, x = ⟨.saveConversation c, .error err⟩

theorem FailedSave.saves {x : Exchange Request.Answer} (h : FailedSave x) :
    ConversationTable.Saves x := by
  obtain ⟨c, err, rfl⟩ := h
  exact ⟨c, rfl⟩

/-- A node that a chain begins, at its start or at the step of a flow, and the state before. -/
structure Beginning where
  node : Node
  step : Option FlowStep
  state : ChainState

/-- A history of a chain that marks where it begins nodes. -/
abbrev MarkedHistory := List (Exchange (Marked Request.Answer Beginning))

namespace ChainScope

open ChainWork Work ConversationTable Exchange

variable (e : ChainScope)

/-- What a chain does at a node, or with the step of a flow there. -/
def stage (node : Node) : Option FlowStep → ChainWork (Option NodeId)
  | none => e.execute node
  | some step => e.deliverStep node step

/-- Marks a node and executes it. -/
def begun (node : Node) (step : Option FlowStep) :
    Work ChainError ChainState (Marked Request.Answer Beginning) (Option NodeId) :=
  Work.marked (fun s => ⟨node, step, s⟩) (e.stage node step)

/-- The walk that marks the nodes it begins. -/
def markedWalk : Nat → NodeId →
    Work ChainError ChainState (Marked Request.Answer Beginning) Unit
  | budget, id =>
    match e.workflow.graph.node? id with
    | none => pure ()
    | some node =>
      match budget with
      | 0 => throw (.cycle id e.workflow.graph.nodeCount)
      | budget + 1 => do
        match ← e.begun node none with
        | some next => markedWalk budget next
        | none => pure ()

/-- The walk on from a node, if there is one. -/
def markedWalkOn (budget : Nat) : Option NodeId →
    Work ChainError ChainState (Marked Request.Answer Beginning) Unit
  | some next => e.markedWalk budget next
  | none => pure ()

/-- The chain that marks the nodes it begins. -/
def marked : ChainStart → Work ChainError ChainState (Marked Request.Answer Beginning) Unit
  | .node id => e.markedWalk e.workflow.graph.nodeCount id
  | .entry id => do
    match e.workflow.graph.node? id with
    | some node =>
      let _ ← e.begun node none
      pure ()
    | none => pure ()
  | .flowStep id step => do
    match e.workflow.graph.node? id with
    | some node =>
      let next ← e.begun node (some step)
      e.markedWalkOn (e.workflow.graph.nodeCount - 1) next
    | none => pure ()

variable {e}

/-! ## A marked chain is the chain -/

theorem erase_begun (node : Node) (step : Option FlowStep) :
    (e.begun node step).erase = e.stage node step := Work.erase_marked

theorem erase_markedWalk : ∀ (budget : Nat) (id : NodeId),
    (e.markedWalk budget id).erase = e.walk budget id
  | 0, id => by
    unfold markedWalk walk
    cases e.workflow.graph.node? id <;> rfl
  | budget + 1, id => by
    unfold markedWalk walk
    cases e.workflow.graph.node? id with
    | none => rfl
    | some node =>
      dsimp only
      rw [erase_bind, erase_begun]
      refine congrArg (e.execute node >>= ·) (funext fun next => ?_)
      cases next with
      | none => rfl
      | some next => exact erase_markedWalk budget next

theorem erase_markedWalkOn (budget : Nat) (next : Option NodeId) :
    (e.markedWalkOn budget next).erase = e.walkOn budget next := by
  cases next with
  | none => rfl
  | some next => exact erase_markedWalk budget next

theorem erase_marked (start : ChainStart) : (e.marked start).erase = e.drive start := by
  cases start with
  | node id => exact erase_markedWalk _ id
  | entry id =>
    dsimp only [marked, drive]
    cases e.workflow.graph.node? id with
    | none => rfl
    | some node =>
      dsimp only
      rw [erase_bind, erase_begun]
      rfl
  | flowStep id step =>
    dsimp only [marked, drive]
    cases e.workflow.graph.node? id with
    | none => rfl
    | some node =>
      dsimp only
      rw [erase_bind, erase_begun]
      exact congrArg (e.deliverStep node step >>= ·) (funext (erase_markedWalkOn _))

/-! ## Giving up when a save fails -/

/-- The conversation stays as it is and is not saved. -/
def still (c : Conversation) : Contract ChainError ChainState Request.Answer where
  state s := s.conversation = c
  exchange x := ¬ Saves x
  failure _ := True

theorem SendRequest.not_saves {x : Exchange Request.Answer} (h : e.SendRequest x.1) :
    ¬ Saves x := by
  rintro ⟨c, hc⟩
  rw [hc] at h
  exact h

theorem sends_still (e : ChainScope) (c : Conversation) : (still c).Sends e where
  state _ _ h hs := h.trans hs
  ask _ h := h.not_saves
  fail _ _ := trivial

/-- What a stage that goes on made of the context: a call notes its outcome and what it maps, a
booking that cannot be started is cleared, and everything else leaves the context alone. -/
def Results (e : ChainScope) (b : Beginning) (between : List (Exchange Request.Answer))
    (after : Context) : Prop :=
  let before := b.state.conversation.context
  match b.step, b.node.kind with
  | none, .httpCall call => ∃ allowed calls outcome saved,
      between = ⟨.setting .allowedDomains, allowed⟩ ::
          (calls.map fun x => ⟨.http x.1, x.2⟩) ++ [saved]
        ∧ (call.run e.settings.http (e.facts.templateScope before)
            (allowlistOf allowed)).Runs calls outcome
        ∧ after = noteOutcome b.node outcome before
  | none, .bookAppointment _ => after = before.clearProgress
  | none, .checkBookings _ => after = before.clearProgress
  | _, _ => after = before

/-- The store holds the conversation, which stands at the node. -/
structure SavedAt (t : ConversationTable) (node : Node) (c : Conversation) : Prop where
  stored : t.find? c.key = some c
  current : c.currentNodeId = some node.id

theorem runs_deliverAll {node : Node} {messages : List OutboundMessage} {s : ChainState}
    {g : List (Exchange Request.Answer)} {r : Except ChainError Unit × ChainState}
    (run : (e.deliverAll node messages s).Runs g r) :
    (∀ x ∈ g, ¬ Saves x) ∧ r.2.conversation = s.conversation := by
  obtain ⟨hg, hr, -⟩ :=
    (sends_still e s.conversation).keeps_deliverAll node messages s rfl g r run
  exact ⟨hg, hr⟩

theorem runs_saveAt {node : Node} {s u : ChainState} {g : List (Exchange Request.Answer)} {a : Unit}
    (run : (e.saveAt node s).Runs g (.ok a, u)) :
    u.conversation = s.conversation.advanceTo node.id e.now
      ∧ g = [⟨.saveConversation u.conversation, .ok ()⟩] := by
  obtain ⟨answer, h', rfl, rfl, hr⟩ := run
  cases answer with
  | error err => cases hr
  | ok a =>
    cases hr
    exact ⟨rfl, rfl⟩

theorem savedAt_of_runs_saveAt {node : Node} {s u : ChainState}
    {g : List (Exchange Request.Answer)} {a : Unit} (run : (e.saveAt node s).Runs g (.ok a, u))
    (t : ConversationTable) : SavedAt (t.stored g) node u.conversation := by
  obtain ⟨hu, rfl⟩ := runs_saveAt run
  refine ⟨find?_save_self t u.conversation, ?_⟩
  rw [hu]
  rfl

/-- The step of a flow is saved before it is sent. -/
theorem runs_deliverStep {node : Node} {step : FlowStep} {s u : ChainState}
    {g : List (Exchange Request.Answer)} {next : Option NodeId}
    (run : (e.deliverStep node step s).Runs g (.ok next, u)) :
    (∀ t : ConversationTable, SavedAt (t.stored g) node u.conversation)
      ∧ u.conversation = s.conversation.advanceTo node.id e.now
      ∧ next = e.transitionTarget? node step.transition := by
  obtain ⟨g₁, a, s₁, g', rfl, save, rest⟩ := runs_bind_ok.1 run
  obtain ⟨g₂, a', s₂, g₃, rfl, send, ⟨rfl, hend⟩⟩ := runs_bind_ok.1 rest
  cases hend
  obtain ⟨unsaved, same⟩ := runs_deliverAll send
  refine ⟨fun t => ?_, same.trans (runs_saveAt save).1, rfl⟩
  rw [List.append_nil, stored_append, stored_of_not_saves unsaved,
    show u.conversation = s₁.conversation from same]
  exact savedAt_of_runs_saveAt save t

/-- A message is sent before the conversation is saved. -/
theorem runs_sendOwn_saveAt {node : Node} {s u : ChainState} {next n : Option NodeId}
    {g : List (Exchange Request.Answer)}
    (run : (do
      e.sendOwn node
      e.saveAt node
      pure n : ChainWork (Option NodeId)) s |>.Runs g (.ok next, u)) :
    (∀ t : ConversationTable, SavedAt (t.stored g) node u.conversation)
      ∧ u.conversation = s.conversation.advanceTo node.id e.now ∧ next = n := by
  obtain ⟨g₁, a, s₁, g', rfl, send, rest⟩ := runs_bind_ok.1 run
  obtain ⟨g₂, a', s₂, g₃, rfl, save, ⟨rfl, hend⟩⟩ := runs_bind_ok.1 rest
  cases hend
  obtain ⟨unsaved, same⟩ := runs_deliverAll send
  refine ⟨fun t => ?_, ?_, rfl⟩
  · rw [List.append_nil, stored_append]
    exact savedAt_of_runs_saveAt save _
  · rw [(runs_saveAt save).1, show s₁.conversation = s.conversation from same]

theorem runs_ofHttp {α : Type}
    {p : Program HttpRequest (fun _ => Except HttpFailure HttpResponse) α}
    {h : List (Exchange Request.Answer)} {a : α} :
    (Service.ofHttp p).Runs h a ↔ ∃ g, h = g.map (fun x => ⟨.http x.1, x.2⟩) ∧ p.Runs g a :=
  Program.runs_embed (f := Request.http) (fun _ r => r) (fun _ _ => rfl) fun _ _ => rfl

theorem runs_callHttp {node : Node} {call : HttpCall} {s u : ChainState}
    {g : List (Exchange Request.Answer)} {next : Option NodeId}
    (run : (e.callHttp node call s).Runs g (.ok next, u)) :
    (∀ t : ConversationTable, SavedAt (t.stored g) node u.conversation)
      ∧ u.conversation.key = s.conversation.key
      ∧ ∃ allowed calls outcome saved,
        g = ⟨.setting .allowedDomains, allowed⟩ :: (calls.map fun x => ⟨.http x.1, x.2⟩) ++ [saved]
          ∧ (call.run e.settings.http (e.facts.templateScope s.conversation.context)
              (allowlistOf allowed)).Runs calls outcome
          ∧ u.conversation.context = noteOutcome node outcome s.conversation.context := by
  unfold callHttp at run
  rw [get_bind_apply] at run
  -- the call itself is of no concern here
  generalize call.run e.settings.http (e.facts.templateScope s.conversation.context) = p
    at run ⊢
  obtain ⟨g₁, allowed, s₁, g', rfl, ⟨allowed', -, rfl, rfl, h₁⟩, rest⟩ := runs_bind_ok.1 run
  cases h₁
  obtain ⟨g₂, outcome, s₂, g', rfl, called, rest⟩ := runs_bind_ok.1 rest
  rw [modify_bind_apply] at rest
  obtain ⟨g₄, a', s₄, g₅, rfl, save, ⟨rfl, hend⟩⟩ := runs_bind_ok.1 rest
  cases hend
  obtain ⟨g₂', o, g₂'', rfl, made, ⟨rfl, h₂⟩⟩ := Program.runs_bind.1 called
  cases h₂
  obtain ⟨calls, rfl, ran⟩ := runs_ofHttp.1 made
  obtain ⟨hu, hg⟩ := runs_saveAt save
  refine ⟨fun t => ?_, ?_, allowed, calls, outcome,
    ⟨.saveConversation u.conversation, .ok ()⟩, ?_, ran, ?_⟩
  · rw [List.append_nil, List.append_nil, ← List.append_assoc, stored_append]
    exact savedAt_of_runs_saveAt save _
  · rw [hu]
    rfl
  · rw [hg, List.append_nil, List.append_nil]
    rfl
  · rw [hu]
    rfl

/-! ## From node to node -/

/-- A chain that goes on from a beginning to a state, with a history between. -/
structure Boundary (e : ChainScope) (b : Beginning) (between : List (Exchange Request.Answer))
    (after : ChainState) : Prop where
  key : after.conversation.key = b.state.conversation.key
  saved : ∀ t : ConversationTable, SavedAt (t.stored between) b.node after.conversation
  results : e.Results b between after.conversation.context

section Starting

open BookingWork

variable {before : Context}

/-- What a flow that starts leaves of a context: nothing is in progress, or it waits for a reply with
the booking that it has begun. -/
def Begun (before : Context) (p : BookingProgress) (step : FlowStep) (after : Context) : Prop :=
  after = before.clearProgress
    ∨ step.transition = .awaitReply ∧ after = { before.clearProgress with booking := some p }

/-- A query changes nothing of the context. -/
theorem leaves_ask {P : Context → Prop} (q : BookingQuery) :
    Leaves P (BookingWork.ask q) (fun _ => P) fun _ => True := by
  intro c hc
  refine .ask fun r => ⟨trivial, .done ?_⟩
  cases r with
  | ok a => exact hc
  | error err => trivial

theorem leaves_clear : Leaves (· = before) clear (fun _ c => c = before.clearProgress)
    fun _ => True := by
  refine .modify ?_
  rintro c rfl
  rfl

theorem begun_keep {p : BookingProgress} {step : FlowStep} (waits : step.transition = .awaitReply) :
    Leaves (· = before.clearProgress) (do
      keep p
      pure step : BookingWork FlowStep) (Begun before p) fun _ => True := by
  refine Leaves.bind (m := fun _ c => c = { before.clearProgress with booking := some p })
    (.modify ?_) fun _ => .pure fun _ hc => .inr ⟨waits, hc⟩
  rintro c rfl
  rfl

theorem begun_startBooking (v : Visit) (id : NodeId) (settings : BookAppointment) :
    Leaves (· = before) (v.startBooking id settings)
      (Begun before (.start id (.book settings) .selectDepartment)) fun _ => True := by
  unfold Visit.startBooking
  refine leaves_clear.bind fun _ => (leaves_ask _).bind fun departments => ?_
  split
  · exact .pure fun _ hc => .inl hc
  · exact begun_keep rfl

theorem begun_startCheck (v : Visit) (id : NodeId) (settings : CheckBookings) :
    Leaves (· = before) (v.startCheck id settings)
      (Begun before (.start id (.check settings) .selectBooking)) fun _ => True := by
  unfold Visit.startCheck
  refine leaves_clear.bind fun _ => (leaves_ask _).bind fun bookings => ?_
  split
  · exact .pure fun _ hc => .inl hc
  · split
    · exact .pure fun _ hc => .inl hc
    · exact begun_keep rfl

/-- What executing a node leaves that starts a booking. -/
theorem runs_booking {node : Node} {s u : ChainState} {w : BookingWork FlowStep}
    {g : List (Exchange Request.Answer)} {next : Option NodeId} {p : BookingProgress}
    (begun : Leaves (· = s.conversation.context) w (Begun s.conversation.context p) fun _ => True)
    (run : (ofBooking node.id w >>= fun step => e.deliverStep node step) s |>.Runs g
      (.ok next, u)) :
    ∃ step x, Begun s.conversation.context p step x
      ∧ (∀ t : ConversationTable, SavedAt (t.stored g) node u.conversation)
      ∧ u.conversation = { s.conversation with context := x }.advanceTo node.id e.now
      ∧ next = e.transitionTarget? node step.transition := by
  obtain ⟨g₁, step, s₁, g₂, rfl, started, delivered⟩ := runs_bind_ok.1 run
  obtain ⟨saved, hu, hnext⟩ := runs_deliverStep delivered
  obtain ⟨k₁, ⟨r, x⟩, k₂, rfl, asked, ⟨rfl, hend⟩⟩ := Program.runs_bind.1 started
  cases r with
  | error err => cases hend
  | ok a =>
    cases hend
    obtain ⟨calls, ran, -⟩ := Program.runs_of_embed asked
    refine ⟨step, x, (begun _ rfl _ _ ran).2, fun t => ?_, hu, hnext⟩
    rw [stored_append]
    exact saved _

end Starting

/-- Every mark of a history is of one conversation, and whatever stands between two marks is a
boundary. -/
structure Linked (e : ChainScope) (key : ConversationKey) (h : MarkedHistory) : Prop where
  keys : ∀ m, mark m ∈ h → m.state.conversation.key = key
  boundary : ∀ before prev between b after,
    h = before ++ mark prev :: (between.map unmarked ++ mark b :: after) →
      e.Boundary prev between b.state

theorem Linked.cons {b b' : Beginning} {g : List (Exchange Request.Answer)} {h : MarkedHistory}
    {key : ConversationKey} (hb : b.state.conversation.key = key)
    (first : e.Boundary b g b'.state) (rest : e.Linked key (mark b' :: h)) :
    e.Linked key (mark b :: (g.map unmarked ++ mark b' :: h)) := by
  constructor
  · intro m hm
    rcases List.mem_cons.1 hm with hm | hm
    · cases hm
      exact hb
    · rcases List.mem_append.1 hm with hm | hm
      · exact absurd hm mark_notMem_map_unmarked
      · exact rest.keys m hm
  · intro before prev between a after split
    cases before with
    | nil =>
      obtain ⟨hmark, tail⟩ := List.cons.inj split
      cases hmark
      obtain ⟨rfl, rfl, -⟩ := map_unmarked_append_mark tail
      exact first
    | cons x before =>
      obtain ⟨-, tail⟩ := List.cons.inj split
      rcases List.append_eq_append_iff.1 tail with ⟨k, -, hk⟩ | ⟨k, hg, hk⟩
      · exact rest.boundary k prev between a after hk
      · cases k with
        | nil => exact rest.boundary [] prev between a after hk.symm
        | cons y k =>
          have inside : mark prev ∈ g.map unmarked := by
            rw [hg, (List.cons.inj hk).1]
            simp
          exact absurd inside mark_notMem_map_unmarked

end ChainScope

end Dialogue
