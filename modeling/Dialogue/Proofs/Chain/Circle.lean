import Dialogue.Proofs.Chain.Trail
import Dialogue.Proofs.Graph.Loops
import Dialogue.Rehearsal.World
import Mathlib.Data.List.Chain

/-!
# The circles of a chain

A chain goes on from a node that only sends or calls along an edge that the lint follows, and from
a booking node along one that it does not (`leaves_execute`). So a circle that a chain is stopped
for is one that the lint reports, or one that goes through a booking node (`run_circles`): a
booking whose outcome is known at once does not wait for a reply either, and the lint does not look
at it.
-/

namespace Dialogue

namespace Graph

open Relation

variable (g : Graph)

/-- The identifier is that of a booking node. -/
def BooksAt (id : NodeId) : Prop := ∃ n, g.node? id = some n ∧ n.kind.category = .booking

/-- A node after which a chain goes on has an edge to another identifier. -/
def GoesOn (a b : NodeId) : Prop :=
  ∃ n, g.node? a = some n ∧ continues n.kind = true ∧ ∃ edge ∈ g.edges,
    edge.source = a ∧ edge.target = b

/-- How a chain gets from one executed node to the next. -/
def Passes (a b : NodeId) : Prop := g.BooksAt a ∨ g.GoesOn a b

variable {g}

theorem GoesOn.mem_chainingIds {a b : NodeId} (h : g.GoesOn a b) : a ∈ g.chainingIds := by
  obtain ⟨n, hn, hc, -⟩ := h
  exact Graph.mem_chainingIds.2 ⟨n, mem_nodes_of_node? hn, hc, id_of_node? hn⟩

theorem GoesOn.leads {a b : NodeId} (h : g.GoesOn a b) (hb : b ∈ g.chainingIds) :
    g.Leads g.chainingIds a b := by
  obtain ⟨n, -, -, edge, hedge, rfl, rfl⟩ := h
  refine List.mem_filter.2 ⟨List.mem_map.2 ⟨edge, ?_, rfl⟩, List.contains_iff_mem.2 hb⟩
  exact List.mem_filter.2 ⟨hedge, beq_iff_eq.2 rfl⟩

/-- A stretch of a chain without booking nodes follows edges of the lint. -/
theorem chains_of_passes {b : NodeId} (hb : b ∈ g.chainingIds) : ∀ {between : List NodeId}
    {a : NodeId}, List.IsChain g.Passes (a :: between ++ [b]) →
      (∀ y ∈ a :: between, ¬ g.BooksAt y) → a ∈ g.chainingIds ∧ g.Chains a b
  | [], a, pass, quiet => by
    have goes := (List.isChain_pair.1 pass).resolve_left (quiet a List.mem_cons_self)
    exact ⟨goes.mem_chainingIds, .single (goes.leads hb)⟩
  | c :: between, a, pass, quiet => by
    obtain ⟨first, rest⟩ := List.isChain_cons_cons.1 pass
    have goes := first.resolve_left (quiet a List.mem_cons_self)
    obtain ⟨hc, chains⟩ := chains_of_passes hb rest fun y hy => quiet y (List.mem_cons_of_mem a hy)
    exact ⟨goes.mem_chainingIds, .head (goes.leads hc) chains⟩

/-- A chain that comes back to a node has passed a booking node, or the lint reports the circle. -/
theorem circle_reported {x : NodeId} {loop : List NodeId}
    (pass : List.IsChain g.Passes (x :: loop ++ [x])) :
    (∃ y ∈ x :: loop, g.BooksAt y)
      ∨ ∃ reported, .chainCycle reported ∈ g.issues ∧ x ∈ reported := by
  by_cases h : ∃ y ∈ x :: loop, g.BooksAt y
  · exact .inl h
  · have quiet : ∀ y ∈ x :: loop, ¬ g.BooksAt y := fun y hy hbook => h ⟨y, hy, hbook⟩
    have hx : x ∈ g.chainingIds := by
      cases loop with
      | nil =>
        exact ((List.isChain_pair.1 pass).resolve_left (quiet x List.mem_cons_self)).mem_chainingIds
      | cons y r =>
        exact ((List.isChain_cons_cons.1 pass).1.resolve_left
          (quiet x List.mem_cons_self)).mem_chainingIds
    obtain ⟨reported, hr, hmem⟩ := mem_loops_iff.2 (chains_of_passes hx pass quiet).2
    exact .inr ⟨reported, chainCycle_mem_issues_iff.2 hr, hmem⟩

end Graph

namespace ChainScope

open ChainWork Work

variable {e : ChainScope}

/-! ## Where nodes lead -/

/-- The next node is one that the node goes on to, unless the node books. -/
def ExitOf (e : ChainScope) (node : Node) (next : Option NodeId) : Prop :=
  ∀ id, next = some id → node.kind.category = .booking ∨ Graph.continues node.kind = true
    ∧ ∃ edge ∈ e.workflow.graph.edges, edge.source = node.id ∧ edge.target = id

theorem exitOf_edge {node : Node} (hk : Graph.continues node.kind = true) {found : Option Edge}
    (h : ∀ edge, found = some edge → edge ∈ e.workflow.graph.outgoing node.id) :
    e.ExitOf node (found.map Edge.target) := by
  intro id hid
  obtain ⟨edge, hedge, rfl⟩ := Option.map_eq_some_iff.1 hid
  obtain ⟨hmem, hsource⟩ := Graph.mem_outgoing_iff.1 (h edge hedge)
  exact .inr ⟨hk, edge, hmem, hsource, rfl⟩

theorem leaves_execute (node : Node) :
    Leaves (fun _ => True) (e.execute node) (fun next _ => e.ExitOf node next) fun _ => True := by
  have first : Graph.continues node.kind = true →
      e.ExitOf node ((e.workflow.graph.firstOutgoing? node.id).map Edge.target) := fun hk =>
    exitOf_edge hk fun edge h => Graph.mem_of_firstOutgoing? h
  have booked : node.kind.category = .booking → ∀ next, e.ExitOf node next :=
    fun hk next id _ => .inl hk
  unfold execute
  split
  all_goals rename_i hk
  · exact .after fun _ => .after fun _ => .pure fun _ _ => first (by rw [hk]; rfl)
  · exact .after fun _ => .after fun _ => .pure fun _ _ => first (by rw [hk]; rfl)
  · exact .after fun _ => .after fun _ => .pure fun _ _ => first (by rw [hk]; rfl)
  · exact .after fun _ => .after fun _ => .pure fun _ _ => nofun
  · exact .after fun _ => .after fun _ => .pure fun _ _ => nofun
  · exact .after fun _ => .after fun _ => .pure fun _ _ => nofun
  · exact .after fun _ => .after fun _ => .pure fun _ _ => nofun
  · refine .after fun _ => .after fun _ => .after fun outcome => .after fun _ => .after fun _ =>
      .pure fun _ _ => exitOf_edge (by rw [hk]; rfl) fun edge h =>
        Graph.mem_of_outgoingAt? h
  · exact .after fun step => .after fun _ => .after fun _ => .pure fun _ _ =>
      booked (by rw [hk]; rfl) _
  · exact .after fun step => .after fun _ => .after fun _ => .pure fun _ _ =>
      booked (by rw [hk]; rfl) _
  · exact fun _ _ => .done trivial

/-- An executed node does not stop a chain as a circle, and passes it on along its exits. -/
theorem ensures_execute {id : NodeId} {node : Node} (hn : e.workflow.graph.node? id = some node)
    (s : ChainState) :
    (e.execute node s).Ensures (fun _ => True) fun r =>
      (∀ i limit, r.1 ≠ .error (.cycle i limit))
        ∧ ∀ next, r.1 = .ok (some next) → e.workflow.graph.Passes id next := by
  intro h r run
  obtain ⟨-, -, uncircled⟩ := e.uncircled.keeps_execute node s trivial h r run
  obtain ⟨-, exits⟩ := leaves_execute (e := e) node s trivial h r run
  refine ⟨fun _ _ => trivial, fun i limit hr => ?_, fun next hr => ?_⟩
  · rw [hr] at uncircled
    exact uncircled i limit rfl
  · rw [hr] at exits
    rcases exits next rfl with hk | ⟨hk, edge, hedge, hsource, htarget⟩
    · exact .inl ⟨node, hn, hk⟩
    · exact .inr ⟨node, hn, hk, edge, hedge, hsource.trans (Graph.id_of_node? hn), htarget⟩

end ChainScope

namespace Tour

/-- What a tour reached, if it is stopped as a circle, starts with an identifier, and what follows
satisfies a property. -/
def Reached (first : NodeId) (P : List NodeId → Prop) (t : Tour) : Prop :=
  ∀ stop limit, t.result = .error (.cycle stop limit) →
    ∃ rest, t.executed ++ [stop] = first :: rest ∧ P rest

theorem reached_of_ok {t : Tour} (h : t.result = .ok ()) (first : NodeId)
    (P : List NodeId → Prop) : t.Reached first P := by
  intro stop limit hc
  rw [h] at hc
  cases hc

end Tour

namespace ChainScope

variable {e : ChainScope}

/-- A tour goes on from a first node as it passes on from there. -/
theorem reached_onward {g : Graph} {id : NodeId} {go : NodeId → ChainState → Service Tour}
    {w : ChainWork (Option NodeId)} {s : ChainState} {P : NodeId → Prop}
    (hw : (w s).Ensures (fun _ => True) fun r => (∀ i limit, r.1 ≠ .error (.cycle i limit))
      ∧ ∀ next, r.1 = .ok (some next) → P next)
    (hgo : ∀ next s, (go next s).Ensures (fun _ => True)
      (Tour.Reached next fun rest => List.IsChain g.Passes (next :: rest))) :
    ((w s).bind (onward id go)).Ensures (fun _ => True)
      (Tour.Reached id fun rest => List.IsChain g.Passes rest ∧ ∀ next ∈ rest.head?, P next) := by
  refine hw.bind ?_
  rintro ⟨r, t⟩ ⟨hr, hnext⟩
  cases r with
  | error error =>
    refine .done fun i limit h => ?_
    cases h
    exact absurd rfl (hr i limit)
  | ok next =>
    cases next with
    | none => exact .done (Tour.reached_of_ok rfl id _)
    | some next =>
      refine (hgo next t).bind fun u hu => .done fun i limit h => ?_
      obtain ⟨rest, hrest, chain⟩ := hu i limit h
      refine ⟨next :: rest, congrArg (id :: ·) hrest, chain, fun n hn => ?_⟩
      cases hn
      exact hnext next rfl

theorem reached_trail : ∀ (budget : Nat) (id : NodeId) (s : ChainState),
    (e.trail budget id s).Ensures (fun _ => True)
      (Tour.Reached id fun rest => List.IsChain e.workflow.graph.Passes (id :: rest))
  | 0, id, s => by
    unfold trail
    cases e.workflow.graph.node? id with
    | none => exact .done (Tour.reached_of_ok rfl id _)
    | some node =>
      refine .done fun i limit h => ?_
      cases h
      exact ⟨[], rfl, .singleton id⟩
  | budget + 1, id, s => by
    unfold trail
    cases hn : e.workflow.graph.node? id with
    | none => exact .done (Tour.reached_of_ok rfl id _)
    | some node =>
      intro h t run
      obtain ⟨-, hr⟩ := reached_onward (ensures_execute hn s) (reached_trail budget) h t run
      refine ⟨fun _ _ => trivial, fun i limit hc => ?_⟩
      obtain ⟨rest, hrest, chain, hfirst⟩ := hr i limit hc
      exact ⟨rest, hrest, List.isChain_cons.2 ⟨hfirst, chain⟩⟩

/-- How a tour gets from node to node: the step that a chain starts with may lead anywhere. -/
theorem reached_tour (start : ChainStart) (s : ChainState) :
    (e.tour start s).Ensures (fun _ => True) fun t => ∃ first, t.Reached first fun rest =>
      List.IsChain e.workflow.graph.Passes rest ∧ ((∃ step, start = .flowStep first step)
        ∨ List.IsChain e.workflow.graph.Passes (first :: rest)) := by
  cases start with
  | node id =>
    intro h t run
    refine ⟨fun _ _ => trivial, id, fun i limit hc => ?_⟩
    obtain ⟨rest, hrest, chain⟩ := (reached_trail _ id s h t run).2 i limit hc
    exact ⟨rest, hrest, chain.tail, .inr chain⟩
  | entry id =>
    dsimp only [tour]
    cases hn : e.workflow.graph.node? id with
    | none => exact .done ⟨id, Tour.reached_of_ok rfl id _⟩
    | some node =>
      refine (ensures_execute hn s).bind ?_
      rintro ⟨r, t⟩ ⟨hr, -⟩
      refine .done ⟨id, fun i limit hc => ?_⟩
      cases r with
      | ok a => cases hc
      | error error =>
        cases hc
        exact absurd rfl (hr i limit)
  | flowStep id step =>
    dsimp only [tour]
    cases hn : e.workflow.graph.node? id with
    | none => exact .done ⟨id, Tour.reached_of_ok rfl id _⟩
    | some node =>
      intro h t run
      refine ⟨fun _ _ => trivial, id, fun i limit hc => ?_⟩
      have uncircled : (e.deliverStep node step s).Ensures (fun _ => True) fun r =>
          (∀ i limit, r.1 ≠ .error (.cycle i limit)) ∧ ∀ next, r.1 = .ok (some next) → True := by
        intro h r run
        obtain ⟨-, -, hr⟩ := e.uncircled.keeps_deliverStep node step s trivial h r run
        refine ⟨fun _ _ => trivial, fun i limit hc => ?_, fun _ _ => trivial⟩
        rw [hc] at hr
        exact hr i limit rfl
      obtain ⟨rest, hrest, chain, -⟩ :=
        (reached_onward uncircled (reached_trail _) h t run).2 i limit hc
      exact ⟨rest, hrest, chain, .inl ⟨step, rfl⟩⟩

/-- A chain that is stopped as a circle reached an identifier twice, and between any two times it
passed a booking node, unless the lint reports the circle or the chain started with the step that
led into it. -/
theorem run_circles {σ : Type} (e : ChainScope) (c : Conversation) (start : ChainStart)
    (answer : (r : Request) → σ → r.Answer × σ) (world : σ) :
    ∃ t after, (e.tour start (.start c)).run answer world = (t, after)
      ∧ (e.run c start).run answer world = ((t.report, t.state.conversation), after)
      ∧ ∀ id limit, t.report.error = some (.cycle id limit) → ¬ (t.executed ++ [id]).Nodup
          ∧ ∀ before x loop behind, t.executed ++ [id] = before ++ x :: (loop ++ x :: behind) →
            (∃ y ∈ x :: loop, e.workflow.graph.BooksAt y)
              ∨ (∃ reported, .chainCycle reported ∈ e.workflow.graph.issues ∧ x ∈ reported)
              ∨ before = [] ∧ ∃ step, start = .flowStep x step := by
  have hrun := Program.runs_history answer (e.tour start (.start c)) world
  obtain ⟨-, within⟩ := ensures_tour start _ _ _ hrun
  obtain ⟨-, first, reached⟩ := reached_tour start _ _ _ hrun
  refine ⟨_, _, rfl, ?_, fun id limit h => ?_⟩
  · rw [← tour_run, Program.run_bind]
    rfl
  · have hc := Tour.result_of_report h
    refine ⟨within.not_nodup hc, fun before x loop behind split => ?_⟩
    obtain ⟨rest, hreached, chain, hstart⟩ := reached id limit hc
    have circle : ∀ {l : List NodeId}, x :: loop ++ [x] <:+: l →
        List.IsChain e.workflow.graph.Passes l →
        (∃ y ∈ x :: loop, e.workflow.graph.BooksAt y)
          ∨ ∃ reported, .chainCycle reported ∈ e.workflow.graph.issues ∧ x ∈ reported := by
      intro l inside hl
      have part := List.IsChain.infix hl inside
      exact Graph.circle_reported part
    rw [hreached] at split
    cases before with
    | nil =>
      obtain ⟨rfl, rfl⟩ := List.cons.inj split
      rcases hstart with hstep | whole
      · exact .inr (.inr ⟨rfl, hstep⟩)
      · exact (circle ⟨[], behind, by simp⟩ whole).imp_right .inl
    | cons b before =>
      obtain ⟨rfl, rfl⟩ := List.cons.inj split
      exact (circle ⟨before, behind, by simp⟩ chain).imp_right .inl

/-! A booking node without anything to offer whose outcome leads back to it. -/

namespace NothingToOffer

def account : AccountId := ⟨⟨1⟩⟩

def clock : Instant := (Instant.ofSeconds? 1773019800).get rfl

def graph : Graph :=
  .ofParts [⟨"book", .bookAppointment .standard⟩] [.plain "book" "book" (some "no_slots")]

def scope : ChainScope where
  workflow := ⟨⟨⟨2⟩⟩, account, "Bookings", true, none, "token", graph, clock, clock⟩
  facts := ⟨"919800000001", none, clock, (Date.ofDay? 20521).get rfl, .ofSecond 0⟩
  settings := ⟨⟨19800, by decide, by decide⟩, 7, .standard⟩
  now := clock

def conversation : Conversation := .new scope.workflow.id "919800000001" clock

def world : World := { World.empty with channels := [⟨⟨⟨3⟩⟩, account, "token", true, true⟩] }

end NothingToOffer

open NothingToOffer in
theorem circles_nothingToOffer : graph.issues = []
    ∧ ((scope.run conversation (.node "book")).run (World.answer clock) world).1.1.error
      = some (.cycle "book" 1)
    ∧ graph.BooksAt "book" := by
  have clean : graph.issues = [] := by rfl
  have stopped : ((scope.run conversation (.node "book")).run (World.answer clock) world).1.1.error
      = some (.cycle "book" 1) := by rfl
  have reached : ((scope.tour (.node "book") (.start conversation)).run (World.answer clock)
      world).1.executed = ["book"] := by rfl
  obtain ⟨t, after, htour, hrun, circles⟩ :=
    run_circles scope conversation (.node "book") (World.answer clock) world
  rw [htour] at reached
  refine ⟨clean, stopped, ?_⟩
  rw [hrun] at stopped
  have circle := (circles "book" 1 stopped).2 [] "book" [] [] (by rw [reached]; rfl)
  rcases circle with ⟨y, hy, hbook⟩ | ⟨reported, hr, -⟩ | ⟨-, step, hstep⟩
  · rw [List.mem_singleton.1 hy] at hbook
    exact hbook
  · rw [show scope.workflow.graph.issues = [] from clean] at hr
    cases hr
  · cases hstep

end ChainScope

end Dialogue
