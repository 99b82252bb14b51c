import Dialogue.Proofs.Graph.Index
import Dialogue.Proofs.Graph.Loops
import Mathlib.Data.List.Nodup
import Mathlib.Data.List.Sort
import Mathlib.Data.String.Basic

/-!
# Loops are strongly connected components

Take the identifiers of the nodes that a chain passes without waiting, and the edges between two of
them. The loops that the lint reports are the components of these edges that a path stays inside:
two identifiers are reported together exactly if each leads to the other, and one is reported at all
exactly if it leads back to itself (`cycles_components`). So a component of one identifier is a loop
only if an edge leads from it to itself. No identifier is reported twice, whatever the nodes and the
edges are.
-/

namespace Dialogue

/-- The identifiers of a loop that is reported. -/
def GraphIssue.cycle? : GraphIssue → Option (List NodeId)
  | .chainCycle ids => some ids
  | _ => none

namespace Graph

open Relation

variable {g : Graph} {a b x y : NodeId}

/-- The loops among all that is wrong with the graph. -/
def cycles (g : Graph) : List (List NodeId) := g.issues.filterMap GraphIssue.cycle?

/-- A node of the identifier sends a message that nobody replies to, or acts. -/
def RunsThrough (g : Graph) (id : NodeId) : Prop :=
  ∃ n ∈ g.nodes, n.id = id ∧ (n.kind.category = .message ∨ n.kind.category = .action)

/-- An edge leads from an identifier to another, and a chain passes both. -/
def Passing (g : Graph) (a b : NodeId) : Prop :=
  g.RunsThrough a ∧ g.RunsThrough b ∧ ∃ e ∈ g.edges, e.source = a ∧ e.target = b

/-! ## Paths -/

theorem mem_chainingIds_iff_runsThrough : a ∈ g.chainingIds ↔ g.RunsThrough a := by
  rw [mem_chainingIds]
  refine exists_congr fun n => and_congr_right fun _ => ?_
  rw [and_comm, continues, Bool.or_eq_true, beq_iff_eq, beq_iff_eq]

theorem leads_iff : g.Leads g.chainingIds a b
    ↔ g.RunsThrough b ∧ ∃ e ∈ g.edges, e.source = a ∧ e.target = b := by
  unfold Leads successors
  rw [List.mem_filter, List.contains_iff_mem, mem_chainingIds_iff_runsThrough, and_comm,
    List.mem_map]
  refine and_congr_right fun _ => exists_congr fun e => ?_
  rw [mem_outgoing_iff, and_assoc]

/-- From an identifier that a chain passes the lint follows the passing edges. -/
theorem chains_iff (hx : g.RunsThrough x) : g.Chains x y ↔ TransGen g.Passing x y := by
  constructor
  · intro path
    induction path with
    | single h =>
      obtain ⟨hy, edge⟩ := leads_iff.1 h
      exact .single ⟨hx, hy, edge⟩
    | tail path h ih =>
      obtain ⟨hz, edge⟩ := leads_iff.1 h
      exact ih.tail ⟨mem_chainingIds_iff_runsThrough.1 (Chains.mem_right path), hz, edge⟩
  · have edges : g.Passing ≤ g.Leads g.chainingIds := fun _ _ h => leads_iff.2 h.2
    exact TransGen.mono edges x y

theorem mutual_iff : g.Chains x y ∧ g.Chains y x
    ↔ TransGen g.Passing x y ∧ TransGen g.Passing y x := by
  constructor
  · rintro ⟨hxy, hyx⟩
    have px := mem_chainingIds_iff_runsThrough.1 hyx.mem_right
    have py := mem_chainingIds_iff_runsThrough.1 hxy.mem_right
    exact ⟨(chains_iff px).1 hxy, (chains_iff py).1 hyx⟩
  · rintro ⟨hxy, hyx⟩
    obtain ⟨z, first, -⟩ := TransGen.head'_iff.1 hxy
    obtain ⟨w, first', -⟩ := TransGen.head'_iff.1 hyx
    exact ⟨(chains_iff first.1).2 hxy, (chains_iff first'.1).2 hyx⟩

/-! ## Reported loops -/

theorem cycles_eq_loops (g : Graph) : g.cycles = g.loops := by
  have nodes : g.unsupportedIssues.filterMap GraphIssue.cycle? = [] := by
    simp [unsupportedIssues, GraphIssue.cycle?]
  have edges : (g.edgeIssues [] g.edges).filterMap GraphIssue.cycle? = [] := by
    refine List.filterMap_eq_nil_iff.2 fun issue h => ?_
    cases issue with
    | chainCycle loop => exact absurd h (chainCycle_notMem_edgeIssues loop _ _)
    | _ => rfl
  have loops : (g.loops.map GraphIssue.chainCycle).filterMap GraphIssue.cycle? = g.loops := by
    rw [List.filterMap_map]
    exact List.filterMap_some
  rw [cycles, issues, List.filterMap_append, List.filterMap_append, nodes, edges, loops]
  rfl

theorem nodup_eraseDups : ∀ ids : List NodeId, ids.eraseDups.Nodup
  | [] => List.nodup_nil
  | id :: r => by
    rw [List.eraseDups_cons, List.nodup_cons]
    exact ⟨by simp, nodup_eraseDups (r.filter fun other => !other == id)⟩
  termination_by ids => ids.length
  decreasing_by exact Nat.lt_succ_of_le (List.length_filter_le _ _)

theorem insertName_eq_orderedInsert (name : NodeId) : ∀ names : List NodeId,
    insertName name names = names.orderedInsert (· ≤ ·) name
  | [] => rfl
  | a :: r => by
    rw [insertName, List.orderedInsert_cons, insertName_eq_orderedInsert name r]
    by_cases h : a < name
    · rw [if_pos h, if_neg (not_le_of_gt h)]
    · rw [if_neg h, if_pos (not_lt.1 h)]

theorem sortNames_eq_insertionSort (names : List NodeId) :
    sortNames names = names.insertionSort (· ≤ ·) := by
  induction names with
  | nil => rfl
  | cons a r ih => exact (congrArg (insertName a) ih).trans (insertName_eq_orderedInsert a _)

theorem sortNames_perm (names : List NodeId) : (sortNames names).Perm names := by
  rw [sortNames_eq_insertionSort]
  exact List.perm_insertionSort _ names

theorem nodup_loopOf {reach : NodeId → List NodeId} : (loopOf g.chainingIds reach x).Nodup :=
  (nodup_eraseDups _).filter _

/-- A loop is reported for its first member. -/
theorem mem_loops {loop : List NodeId} : loop ∈ g.loops ↔ ∃ x,
    (loopOf g.chainingIds g.reachTable x).head? = some x
      ∧ sortNames (loopOf g.chainingIds g.reachTable x) = loop := by
  unfold loops
  simp only [List.mem_map, List.mem_filter, beq_iff_eq]
  refine exists_congr fun x => and_congr_left fun _ => and_iff_right_of_imp fun h => ?_
  exact (mem_loopOf.1 (List.mem_of_head? h)).1

/-- A member of a loop and what it leads to and comes from make up the loop. -/
theorem mem_loop_iff {loop : List NodeId} (h : loop ∈ g.loops) (hx : x ∈ loop) :
    y ∈ loop ↔ g.Chains x y ∧ g.Chains y x := by
  obtain ⟨z, first, rfl⟩ := mem_loops.1 h
  have hz := (mem_loopOf.1 (List.mem_of_head? first)).1
  obtain ⟨zx, xz⟩ := (mem_loopOf_reachTable hz).1 (mem_sortNames.1 hx)
  rw [mem_sortNames, mem_loopOf_reachTable hz]
  exact ⟨fun ⟨zy, yz⟩ => ⟨xz.trans zy, yz.trans zx⟩, fun ⟨xy, yx⟩ => ⟨zx.trans xy, yx.trans xz⟩⟩

/-- Two loops with a member in common are reported for the same first member. -/
theorem disjoint_loopOf (hx : (loopOf g.chainingIds g.reachTable x).head? = some x)
    (hy : (loopOf g.chainingIds g.reachTable y).head? = some y) (ne : x ≠ y) :
    (loopOf g.chainingIds g.reachTable x).Disjoint (loopOf g.chainingIds g.reachTable y) := by
  intro z zx zy
  have mx := (mem_loopOf.1 (List.mem_of_head? hx)).1
  have my := (mem_loopOf.1 (List.mem_of_head? hy)).1
  obtain ⟨xz, zx⟩ := (mem_loopOf_reachTable mx).1 zx
  obtain ⟨yz, zy⟩ := (mem_loopOf_reachTable my).1 zy
  rw [loopOf_eq_of_chains (xz.trans zy) (yz.trans zx), hx] at hy
  exact ne (Option.some.inj hy)

theorem nodup_flatten_loops (g : Graph) : g.loops.flatten.Nodup := by
  refine List.nodup_flatten.2 ⟨fun loop h => ?_, ?_⟩
  · obtain ⟨x, -, rfl⟩ := mem_loops.1 h
    exact (sortNames_perm _).nodup_iff.2 nodup_loopOf
  · -- different first members have different loops
    refine List.pairwise_map.2 (List.Pairwise.imp_of_mem ?_ ((nodup_eraseDups _).filter _))
    intro x y hx hy ne
    have disjoint := disjoint_loopOf (beq_iff_eq.1 (List.mem_filter.1 hx).2)
      (beq_iff_eq.1 (List.mem_filter.1 hy).2) ne
    exact fun z zx zy => disjoint (mem_sortNames.1 zx) (mem_sortNames.1 zy)

theorem sorted_loop {loop : List NodeId} (h : loop ∈ g.loops) : loop.Pairwise (· < ·) := by
  obtain ⟨x, -, rfl⟩ := mem_loops.1 h
  have sorted : (sortNames (loopOf g.chainingIds g.reachTable x)).Pairwise (· ≤ ·) := by
    rw [sortNames_eq_insertionSort]
    exact List.pairwise_insertionSort _ _
  have nodup := (sortNames_perm (loopOf g.chainingIds g.reachTable x)).nodup_iff.2 nodup_loopOf
  exact (sorted.and nodup).imp fun h => lt_of_le_of_ne h.1 h.2

/-- The loops that are reported are the strongly connected components, with an edge inside, of the
edges between nodes that a chain passes: an identifier is in one exactly if a path leads from it
back to itself, two are in the same one exactly if each leads to the other, none is listed twice,
and every loop lists its identifiers, of which there is one at least, in the order of their
texts. -/
theorem cycles_components (g : Graph) :
    (∀ x, (∃ loop ∈ g.cycles, x ∈ loop) ↔ TransGen g.Passing x x)
    ∧ (∀ x y, (∃ loop ∈ g.cycles, x ∈ loop ∧ y ∈ loop)
        ↔ TransGen g.Passing x y ∧ TransGen g.Passing y x)
    ∧ g.cycles.flatten.Nodup
    ∧ ∀ loop ∈ g.cycles, loop ≠ [] ∧ loop.Pairwise (· < ·) := by
  rw [cycles_eq_loops]
  refine ⟨fun x => ?_, fun x y => ?_, nodup_flatten_loops g, fun loop h => ⟨?_, sorted_loop h⟩⟩
  · have back := mutual_iff (g := g) (x := x) (y := x)
    rw [and_self, and_self] at back
    exact mem_loops_iff.trans back
  · rw [← mutual_iff]
    constructor
    · rintro ⟨loop, h, hx, hy⟩
      exact (mem_loop_iff h hx).1 hy
    · rintro ⟨hxy, hyx⟩
      obtain ⟨loop, h, hx⟩ := mem_loops_iff.2 (hxy.trans hyx)
      exact ⟨loop, h, hx, (mem_loop_iff h hx).2 ⟨hxy, hyx⟩⟩
  · obtain ⟨x, first, rfl⟩ := mem_loops.1 h
    exact List.ne_nil_of_mem (mem_sortNames.2 (List.mem_of_head? first))

end Graph

end Dialogue
