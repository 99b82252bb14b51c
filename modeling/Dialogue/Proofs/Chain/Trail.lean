import Dialogue.Proofs.Chain.Contract
import Dialogue.Proofs.Graph.Index

/-!
# A chain ends after as many nodes as the graph has

A tour is a chain that notes the nodes it executes; without its notes it is the chain (`tour_run`).
Whatever the collaborators answer, it executes at most as many nodes as the graph has, and it is
stopped as a circle only behind that many nodes, at one more that exists (`ensures_tour`). So among
the identifiers it reached one occurs twice (`run_stops`).
-/

namespace Dialogue

/-- What a chain did, and the identifiers of the nodes it executed. -/
structure Tour where
  executed : List NodeId
  result : Except ChainError Unit
  state : ChainState

namespace Tour

/-- What the chain reports. -/
def report (t : Tour) : ChainReport :=
  ⟨t.state.responses, match t.result with | .ok _ => none | .error error => some error⟩

theorem result_of_report {t : Tour} {error : ChainError} (h : t.report.error = some error) :
    t.result = .error error := by
  unfold report at h
  cases hr : t.result with
  | ok a => simp [hr] at h
  | error err => simpa [hr] using h

/-- A tour executes at most a number of nodes, which exist; if it is stopped as a circle, it has
executed as many and reached one more that exists. -/
structure Within (g : Graph) (budget : Nat) (t : Tour) : Prop where
  length_le : t.executed.length ≤ budget
  exist : ∀ id ∈ t.executed, id ∈ g.nodes.map Node.id
  stopped : ∀ id limit, t.result = .error (.cycle id limit) →
    limit = g.nodeCount ∧ t.executed.length = budget ∧ id ∈ g.nodes.map Node.id

/-- A tour that is stopped as a circle reached some identifier twice, since it reached more of them
than there are nodes. -/
theorem Within.not_nodup {g : Graph} {t : Tour} (h : Within g g.nodeCount t) {id : NodeId}
    {limit : Nat} (hc : t.result = .error (.cycle id limit)) : ¬ (t.executed ++ [id]).Nodup := by
  obtain ⟨-, hlen, hid⟩ := h.stopped id limit hc
  intro hn
  have hsub : t.executed ++ [id] ⊆ g.nodes.map Node.id := by
    intro i hi
    rcases List.mem_append.1 hi with hi | hi
    · exact h.exist i hi
    · rw [List.mem_singleton.1 hi]
      exact hid
  have hle := hn.length_le_of_subset hsub
  rw [List.length_append, hlen, List.length_map] at hle
  exact Nat.not_succ_le_self _ hle

end Tour

namespace ChainScope

variable (e : ChainScope)

/-- Goes on from an executed node. -/
def onward (id : NodeId) (go : NodeId → ChainState → Service Tour)
    (r : Except ChainError (Option NodeId) × ChainState) : Service Tour :=
  match r.1 with
  | .ok (some next) => (go next r.2).bind fun t => .done { t with executed := id :: t.executed }
  | .ok none => .done ⟨[id], .ok (), r.2⟩
  | .error error => .done ⟨[id], .error error, r.2⟩

/-- The walk that notes the nodes it executes. -/
def trail : Nat → NodeId → ChainState → Service Tour
  | budget, id, s =>
    match e.workflow.graph.node? id with
    | none => .done ⟨[], .ok (), s⟩
    | some node =>
      match budget with
      | 0 => .done ⟨[], .error (.cycle id e.workflow.graph.nodeCount), s⟩
      | budget + 1 => (e.execute node s).bind (onward id (trail budget))

/-- The chain that notes the nodes it executes. -/
def tour (start : ChainStart) (s : ChainState) : Service Tour :=
  match start with
  | .node id => e.trail e.workflow.graph.nodeCount id s
  | .entry id =>
    match e.workflow.graph.node? id with
    | some node => (e.execute node s).bind fun r => .done ⟨[id], r.1.map fun _ => (), r.2⟩
    | none => .done ⟨[], .ok (), s⟩
  | .flowStep id step =>
    match e.workflow.graph.node? id with
    | some node =>
      (e.deliverStep node step s).bind (onward id (e.trail (e.workflow.graph.nodeCount - 1)))
    | none => .done ⟨[], .ok (), s⟩

/-! ## A tour is the chain -/

variable {e}

/-- A tour without its notes. -/
def plain (p : Service Tour) : Service (Except ChainError Unit × ChainState) :=
  p.bind fun t => .done (t.result, t.state)

theorem plain_onward {id : NodeId} {go : NodeId → ChainState → Service Tour}
    (walk : Option NodeId → ChainWork Unit) (hnone : walk none = pure ())
    (hsome : ∀ next s, plain (go next s) = walk (some next) s)
    (w : ChainWork (Option NodeId)) (s : ChainState) :
    plain ((w s).bind (onward id go)) = (w >>= walk) s := by
  unfold plain
  rw [Work.bind_apply, Program.bind_assoc]
  refine congrArg (Program.bind (w s)) (funext ?_)
  rintro ⟨r, t⟩
  cases r with
  | error error => rfl
  | ok next =>
    cases next with
    | none =>
      simp only [hnone]
      rfl
    | some next =>
      simp only [onward, ← hsome, plain, Program.bind_assoc]
      rfl

theorem plain_trail : ∀ (budget : Nat) (id : NodeId) (s : ChainState),
    plain (e.trail budget id s) = e.walk budget id s
  | 0, id, s => by
    unfold trail walk
    cases e.workflow.graph.node? id <;> rfl
  | budget + 1, id, s => by
    unfold trail walk
    cases e.workflow.graph.node? id with
    | none => rfl
    | some node =>
      exact plain_onward (e.walkOn budget) rfl (plain_trail budget) (e.execute node) s

theorem plain_tour (start : ChainStart) (s : ChainState) :
    plain (e.tour start s) = e.drive start s := by
  cases start with
  | node id => exact plain_trail _ id s
  | entry id =>
    dsimp only [tour, drive]
    cases e.workflow.graph.node? id with
    | none => rfl
    | some node =>
      dsimp only [plain]
      rw [Work.bind_apply, Program.bind_assoc]
      refine congrArg (Program.bind (e.execute node s)) (funext ?_)
      rintro ⟨r, t⟩
      cases r <;> rfl
  | flowStep id step =>
    dsimp only [tour, drive]
    cases e.workflow.graph.node? id with
    | none => rfl
    | some node =>
      exact plain_onward (e.walkOn _) rfl (plain_trail _) (e.deliverStep node step) s

/-- Without its notes a tour is the chain. -/
theorem tour_run (c : Conversation) (start : ChainStart) :
    (e.tour start (.start c)).bind (fun t => .done (t.report, t.state.conversation))
      = e.run c start := by
  unfold run
  rw [← plain_tour, plain, Program.bind_assoc]
  rfl

/-! ## How far a tour goes -/

/-- Executing a node does not stop as a circle. -/
def uncircled (e : ChainScope) : NodeContract e where
  conversation _ := True
  exchange _ := True
  failure err := ∀ id limit, err ≠ .cycle id limit
  advance _ _ _ := trivial
  set _ _ _ _ := trivial
  clear _ _ := trivial
  start _ _ _ _ := trivial
  ask _ _ := trivial
  save _ _ _ := trivial
  fail _ h := h

variable {g : Graph} {budget : Nat}

theorem mem_ids_of_node? {id : NodeId} {n : Node} (h : g.node? id = some n) :
    id ∈ g.nodes.map Node.id :=
  List.mem_map.2 ⟨n, Graph.mem_nodes_of_node? h, Graph.id_of_node? h⟩

theorem ensures_onward {id : NodeId} {go : NodeId → ChainState → Service Tour}
    {w : ChainWork (Option NodeId)} {s : ChainState} (hid : id ∈ g.nodes.map Node.id)
    (hw : e.uncircled.chain.Keeps w fun _ => True)
    (hgo : ∀ next s, (go next s).Ensures (fun _ => True) (Tour.Within g budget)) :
    ((w s).bind (onward id go)).Ensures (fun _ => True) (Tour.Within g (budget + 1)) := by
  refine (hw s trivial).bind ?_
  rintro ⟨r, t⟩ ⟨-, hr⟩
  cases r with
  | error error =>
    refine .done ⟨?_, ?_, fun i limit h => ?_⟩
    · exact Nat.le_add_left 1 budget
    · simpa using hid
    · cases h
      exact absurd rfl (hr i limit)
  | ok next =>
    cases next with
    | none =>
      refine .done ⟨?_, ?_, fun i limit h => ?_⟩
      · exact Nat.le_add_left 1 budget
      · simpa using hid
      · cases h
    | some next =>
      refine (hgo next t).bind fun u hu => .done ⟨?_, ?_, fun i limit h => ?_⟩
      · exact Nat.succ_le_succ hu.length_le
      · exact List.forall_mem_cons.2 ⟨hid, hu.exist⟩
      · obtain ⟨hl, hb, hi⟩ := hu.stopped i limit h
        exact ⟨hl, congrArg Nat.succ hb, hi⟩

theorem ensures_trail : ∀ (budget : Nat) (id : NodeId) (s : ChainState),
    (e.trail budget id s).Ensures (fun _ => True) (Tour.Within e.workflow.graph budget)
  | 0, id, s => by
    unfold trail
    cases h : e.workflow.graph.node? id with
    | none => exact .done ⟨Nat.zero_le _, by simp, by simp⟩
    | some node =>
      refine .done ⟨Nat.zero_le _, by simp, ?_⟩
      rintro i limit ⟨⟩
      exact ⟨rfl, rfl, mem_ids_of_node? h⟩
  | budget + 1, id, s => by
    unfold trail
    cases h : e.workflow.graph.node? id with
    | none => exact .done ⟨Nat.zero_le _, by simp, by simp⟩
    | some node =>
      exact ensures_onward (mem_ids_of_node? h) (e.uncircled.keeps_execute node)
        (ensures_trail budget)

theorem ensures_tour (start : ChainStart) (s : ChainState) :
    (e.tour start s).Ensures (fun _ => True)
      (Tour.Within e.workflow.graph e.workflow.graph.nodeCount) := by
  cases start with
  | node id => exact ensures_trail _ id s
  | entry id =>
    dsimp only [tour]
    cases h : e.workflow.graph.node? id with
    | none => exact .done ⟨Nat.zero_le _, by simp, by simp⟩
    | some node =>
      refine (e.uncircled.keeps_execute node s trivial).bind ?_
      rintro ⟨r, t⟩ ⟨-, hr⟩
      refine .done ⟨?_, by simpa using mem_ids_of_node? h, fun i limit hc => ?_⟩
      · exact List.length_pos_of_mem (Graph.mem_nodes_of_node? h)
      · cases r with
        | ok a => cases hc
        | error error =>
          cases hc
          exact absurd rfl (hr i limit)
  | flowStep id step =>
    dsimp only [tour]
    cases h : e.workflow.graph.node? id with
    | none => exact .done ⟨Nat.zero_le _, by simp, by simp⟩
    | some node =>
      have hpos : e.workflow.graph.nodeCount - 1 + 1 = e.workflow.graph.nodeCount :=
        Nat.sub_add_cancel (List.length_pos_of_mem (Graph.mem_nodes_of_node? h))
      rw [← hpos]
      exact ensures_onward (mem_ids_of_node? h) (e.uncircled.keeps_deliverStep node step)
        (ensures_trail _)

/-- Whatever the collaborators answer, a chain executes at most as many nodes as its graph has, and
is stopped as a circle only with that number as the limit and behind some identifier it reached
twice. -/
theorem run_stops {σ : Type} (e : ChainScope) (c : Conversation) (start : ChainStart)
    (answer : (r : Request) → σ → r.Answer × σ) (world : σ) :
    ∃ t after, (e.tour start (.start c)).run answer world = (t, after)
      ∧ (e.run c start).run answer world = ((t.report, t.state.conversation), after)
      ∧ t.executed.length ≤ e.workflow.graph.nodeCount
      ∧ ∀ id limit, t.report.error = some (.cycle id limit) →
          limit = e.workflow.graph.nodeCount ∧ ¬ (t.executed ++ [id]).Nodup := by
  have hrun := Program.runs_history answer (e.tour start (.start c)) world
  obtain ⟨-, within⟩ := ensures_tour start _ _ _ hrun
  refine ⟨_, _, rfl, ?_, within.length_le, fun id limit h => ?_⟩
  · rw [← tour_run, Program.run_bind]
    rfl
  · have hc := Tour.result_of_report h
    exact ⟨(within.stopped id limit hc).1, within.not_nodup hc⟩

end ChainScope

end Dialogue
