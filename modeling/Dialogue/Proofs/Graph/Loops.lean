import Dialogue.Graph.Lint
import Dialogue.Proofs.Keys
import Mathlib.Logic.Relation

/-!
# The loops of a graph

A chaining edge leads from a node after which a chain goes on to another one. The members of the
loops that the lint finds are the identifiers from which chaining edges lead back to themselves
(`mem_loops_iff`). The search for them adds successors as many times as there are chaining
identifiers; by then nothing is left to add, since every time before added one at least
(`closed_spread_or`).
-/

namespace Dialogue

namespace Graph

open Relation

/-! ## Adding what is new -/

theorem addNew_cons (seen : List NodeId) (id : NodeId) (new : List NodeId) :
    addNew seen (id :: new) = addNew (if seen.contains id then seen else seen ++ [id]) new := rfl

theorem mem_addNew {y : NodeId} : ∀ {new seen : List NodeId},
    y ∈ addNew seen new ↔ y ∈ seen ∨ y ∈ new
  | [], seen => by simp [addNew]
  | id :: new, seen => by
    rw [addNew_cons, mem_addNew]
    by_cases h : id ∈ seen
    · rw [if_pos (List.contains_iff_mem.2 h), List.mem_cons]
      refine ⟨Or.imp_right .inr, ?_⟩
      rintro (hy | rfl | hy)
      · exact .inl hy
      · exact .inl h
      · exact .inr hy
    · rw [if_neg (mt List.contains_iff_mem.1 h), List.mem_append, List.mem_singleton, or_assoc,
        List.mem_cons]

theorem nodup_addNew : ∀ {new seen : List NodeId}, seen.Nodup → (addNew seen new).Nodup
  | [], _, h => h
  | id :: new, seen, h => by
    rw [addNew_cons]
    refine nodup_addNew ?_
    split
    · exact h
    · rename_i hid
      refine List.nodup_append.2
        ⟨h, List.nodup_cons.2 ⟨List.not_mem_nil, .nil⟩, fun a ha b hb hab => hid ?_⟩
      rw [List.contains_iff_mem, ← List.mem_singleton.1 hb, ← hab]
      exact ha

/-- What was seen, with one more that is new, fits into the result. -/
theorem length_lt_addNew {seen new : List NodeId} (hs : seen.Nodup) {y : NodeId} (hy : y ∈ new)
    (hn : y ∉ seen) : seen.length < (addNew seen new).length := by
  refine (List.nodup_cons.2 ⟨hn, hs⟩).length_le_of_subset fun z hz => mem_addNew.2 ?_
  rcases List.mem_cons.1 hz with rfl | hz
  · exact .inr hy
  · exact .inl hz

section Spread

variable (g : Graph) (ids : List NodeId)

/-- An edge leads from an identifier to one of some identifiers. -/
def Leads (a b : NodeId) : Prop := b ∈ g.successors ids a

/-- Whatever the members of a list lead to is in the list. -/
def Closed (l : List NodeId) : Prop := ∀ a ∈ l, ∀ b, g.Leads ids a b → b ∈ l

/-- Adds the successors of all that was reached. -/
def grow (reached : List NodeId) : List NodeId :=
  addNew reached (reached.flatMap (g.successors ids))

variable {g ids} {reached : List NodeId}

theorem mem_grow {y : NodeId} :
    y ∈ g.grow ids reached ↔ y ∈ reached ∨ ∃ a ∈ reached, g.Leads ids a y := by
  rw [grow, mem_addNew, List.mem_flatMap]
  rfl

theorem Closed.grow (h : g.Closed ids reached) : g.Closed ids (g.grow ids reached) := by
  have back : ∀ y ∈ g.grow ids reached, y ∈ reached := by
    intro y hy
    rcases mem_grow.1 hy with hy | ⟨a, ha, hay⟩
    · exact hy
    · exact h a ha y hay
  exact fun a ha b hab => mem_grow.2 (.inl (h a (back a ha) b hab))

theorem length_lt_grow (hn : reached.Nodup) (h : ¬ g.Closed ids reached) :
    reached.length < (g.grow ids reached).length := by
  simp only [Closed, Classical.not_forall] at h
  obtain ⟨a, ha, b, hab, hb⟩ := h
  exact length_lt_addNew hn (List.mem_flatMap.2 ⟨a, ha, hab⟩) hb

theorem Closed.spread : ∀ (n : Nat) {reached : List NodeId}, g.Closed ids reached →
    g.Closed ids (g.spread ids n reached)
  | 0, _, h => h
  | n + 1, _, h => Closed.spread n h.grow

/-- A property that edges pass on and that held of all that was reached holds of all that is. -/
theorem forall_mem_spread {P : NodeId → Prop} (step : ∀ a b, P a → g.Leads ids a b → P b) :
    ∀ (n : Nat) {reached : List NodeId}, (∀ y ∈ reached, P y) →
      ∀ y ∈ g.spread ids n reached, P y
  | 0, _, h => h
  | n + 1, reached, h => by
    refine forall_mem_spread step n fun y hy => ?_
    change y ∈ g.grow ids reached at hy
    rcases mem_grow.1 hy with hy | ⟨a, ha, hay⟩
    · exact h y hy
    · exact step a y (h a ha) hay

theorem subset_spread : ∀ (n : Nat) {reached : List NodeId}, reached ⊆ g.spread ids n reached
  | 0, _ => List.Subset.refl _
  | n + 1, _ => fun _ hy => subset_spread n (mem_grow.2 (.inl hy))

theorem nodup_spread : ∀ (n : Nat) {reached : List NodeId}, reached.Nodup →
    (g.spread ids n reached).Nodup
  | 0, _, h => h
  | n + 1, _, h => nodup_spread n (nodup_addNew h)

/-- Nothing is left to add, or every time added one at least. -/
theorem closed_spread_or : ∀ (n : Nat) {reached : List NodeId}, reached.Nodup →
    g.Closed ids (g.spread ids n reached) ∨ reached.length + n ≤ (g.spread ids n reached).length
  | 0, _, _ => .inr (Nat.le_refl _)
  | n + 1, reached, hn => by
    by_cases h : g.Closed ids reached
    · exact .inl (Closed.spread (n + 1) h)
    · rcases closed_spread_or n (nodup_addNew hn) with hc | hl
      · exact .inl hc
      · have hlt := length_lt_grow hn h
        unfold grow at hlt
        exact .inr (by unfold spread; omega)

theorem Leads.mem {a b : NodeId} (h : g.Leads ids a b) : b ∈ ids :=
  List.contains_iff_mem.1 (List.mem_filter.1 h).2

theorem nodup_reachable (x : NodeId) : (g.reachable ids x).Nodup :=
  nodup_spread _ (nodup_addNew List.nodup_nil)

theorem closed_reachable (x : NodeId) : g.Closed ids (g.reachable ids x) := by
  have start : (addNew [] (g.successors ids x)).Nodup := nodup_addNew List.nodup_nil
  rcases closed_spread_or ids.length start with h | h
  · exact h
  · -- all identifiers are reached, so an edge cannot lead to one that is not
    intro a _ b hab
    by_cases hb : b ∈ g.reachable ids x
    · exact hb
    · have inside : ∀ y ∈ b :: g.reachable ids x, y ∈ ids := by
        refine List.forall_mem_cons.2 ⟨hab.mem, ?_⟩
        refine forall_mem_spread (fun _ _ _ hyz => hyz.mem) _ fun y hy => ?_
        rcases mem_addNew.1 hy with hy | hy
        · cases hy
        · exact Leads.mem hy
      have hle := (List.nodup_cons.2 ⟨hb, nodup_reachable x⟩).length_le_of_subset inside
      rw [List.length_cons] at hle
      unfold reachable at hle
      omega

/-- What is reachable is what edges lead to. -/
theorem mem_reachable_iff {x y : NodeId} :
    y ∈ g.reachable ids x ↔ TransGen (g.Leads ids) x y := by
  constructor
  · intro hy
    refine forall_mem_spread (P := TransGen (g.Leads ids) x)
      (fun _ _ h hab => h.tail hab) _ (fun z hz => ?_) y hy
    rcases mem_addNew.1 hz with hz | hz
    · cases hz
    · exact .single hz
  · intro h
    induction h with
    | single hxy => exact subset_spread _ (mem_addNew.2 (.inr hxy))
    | tail _ hyz ih => exact closed_reachable x _ ih _ hyz

end Spread

/-! ## Loops -/

theorem mem_insertName {y name : NodeId} : ∀ {names : List NodeId},
    y ∈ insertName name names ↔ y = name ∨ y ∈ names
  | [] => by simp [insertName]
  | a :: r => by
    unfold insertName
    split
    · rw [List.mem_cons, mem_insertName, List.mem_cons, or_left_comm]
    · rw [List.mem_cons]

theorem mem_sortNames {y : NodeId} : ∀ {names : List NodeId}, y ∈ sortNames names ↔ y ∈ names
  | [] => Iff.rfl
  | a :: r => by
    have rest : y ∈ sortNames r ↔ y ∈ r := mem_sortNames
    rw [List.mem_cons, ← rest]
    exact mem_insertName

theorem mem_loopOf {ids : List NodeId} {reach : NodeId → List NodeId} {x y : NodeId} :
    y ∈ loopOf ids reach x ↔ y ∈ ids ∧ y ∈ reach x ∧ x ∈ reach y := by
  simp [loopOf]

section Loops

variable {g : Graph}

theorem mem_chainingIds {id : NodeId} :
    id ∈ g.chainingIds ↔ ∃ n ∈ g.nodes, continues n.kind = true ∧ n.id = id := by
  simp [chainingIds, and_assoc]

/-- A chain leads from an identifier to another along edges that the lint follows. -/
abbrev Chains (g : Graph) : NodeId → NodeId → Prop := TransGen (g.Leads g.chainingIds)

theorem Chains.mem_right {x y : NodeId} (h : g.Chains x y) : y ∈ g.chainingIds := by
  cases h with
  | single h => exact h.mem
  | tail _ h => exact h.mem

/-- The table of what every chaining identifier reaches. -/
def reachTable (g : Graph) (id : NodeId) : List NodeId :=
  ((g.chainingIds.map fun id => (id, g.reachable g.chainingIds id)).lookup id).getD []

theorem mem_reachTable {x y : NodeId} (hx : x ∈ g.chainingIds) :
    y ∈ g.reachTable x ↔ g.Chains x y := by
  rw [reachTable, Keys.lookup_map_self _ hx, Option.getD_some, mem_reachable_iff]

theorem mem_loopOf_reachTable {x y : NodeId} (hx : x ∈ g.chainingIds) :
    y ∈ loopOf g.chainingIds g.reachTable x ↔ g.Chains x y ∧ g.Chains y x := by
  rw [mem_loopOf]
  constructor
  · rintro ⟨hy, hxy, hyx⟩
    exact ⟨(mem_reachTable hx).1 hxy, (mem_reachTable hy).1 hyx⟩
  · rintro ⟨hxy, hyx⟩
    exact ⟨hxy.mem_right, (mem_reachTable hx).2 hxy, (mem_reachTable hxy.mem_right).2 hyx⟩

/-- The loops of two identifiers on one circle are the same. -/
theorem loopOf_eq_of_chains {x y : NodeId} (hxy : g.Chains x y) (hyx : g.Chains y x) :
    loopOf g.chainingIds g.reachTable y = loopOf g.chainingIds g.reachTable x := by
  refine List.filter_congr fun z hz => Bool.eq_iff_iff.2 ?_
  have zy := mem_loopOf_reachTable (y := z) hxy.mem_right
  have zx := mem_loopOf_reachTable (y := z) hyx.mem_right
  simp only [loopOf, List.mem_filter, hz, true_and] at zy zx
  rw [zy, zx]
  exact ⟨fun h => ⟨hxy.trans h.1, h.2.trans hyx⟩, fun h => ⟨hyx.trans h.1, h.2.trans hxy⟩⟩

/-- The members of the loops that the lint finds are the identifiers that chaining edges lead back
to. -/
theorem mem_loops_iff {x : NodeId} : (∃ loop ∈ g.loops, x ∈ loop) ↔ g.Chains x x := by
  constructor
  · rintro ⟨loop, hloop, hx⟩
    obtain ⟨id, hid, rfl⟩ := List.mem_map.1 hloop
    have circle := (mem_loopOf_reachTable (List.mem_filter.1 hid).1).1 (mem_sortNames.1 hx)
    exact circle.2.trans circle.1
  · intro hx
    have hmem := (mem_loopOf_reachTable hx.mem_right).2 ⟨hx, hx⟩
    -- the first member of the loop is the one that the lint reports it for
    obtain ⟨first, hfirst⟩ := Option.isSome_iff_exists.1
      (List.isSome_head?.2 (List.ne_nil_of_mem hmem))
    obtain ⟨forth, back⟩ := (mem_loopOf_reachTable hx.mem_right).1 (List.mem_of_head? hfirst)
    have same := loopOf_eq_of_chains forth back
    refine ⟨_, List.mem_map.2 ⟨first, List.mem_filter.2 ⟨forth.mem_right, ?_⟩, rfl⟩,
      mem_sortNames.2 ?_⟩
    · exact beq_iff_eq.2 ((congrArg List.head? same).trans hfirst)
    · exact same.symm ▸ hmem

theorem chainCycle_notMem_edgeIssues (loop : List NodeId) : ∀ (edges earlier : List Edge),
    .chainCycle loop ∉ g.edgeIssues earlier edges
  | [], _ => List.not_mem_nil
  | e :: r, earlier => by
    have rest := chainCycle_notMem_edgeIssues loop r (earlier ++ [e])
    simp only [edgeIssues, List.mem_append, not_or]
    refine ⟨⟨⟨?_, ?_⟩, ?_⟩, rest⟩
    · unfold sourceIssue
      split <;> simp
    · unfold targetIssue
      split <;> simp
    · unfold handleIssue
      split
      · split <;> simp
      · simp

theorem chainCycle_mem_issues_iff {loop : List NodeId} :
    .chainCycle loop ∈ g.issues ↔ loop ∈ g.loops := by
  have edges : .chainCycle loop ∉ g.edgeIssues [] g.edges := chainCycle_notMem_edgeIssues loop _ _
  simp [issues, unsupportedIssues, edges]

end Loops

end Graph

end Dialogue
