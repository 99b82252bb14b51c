import Dialogue.Graph.Basic
import Dialogue.Proofs.Keys

/-!
# Look-ups in a graph

The index finds what a search through the nodes finds: the first node that has an identifier
(`node?_eq_find?`). It holds each identifier once, beside the position of that node
(`nodup_index`, `lookup_index_iff`). The edges that leave an identifier are found in the graph
(`mem_outgoing_iff`).
-/

namespace Dialogue

namespace Graph

theorem lookup_note (index : List (NodeId × Nat)) (other : NodeId) (position : Nat) (id : NodeId) :
    (note index other position).lookup id
      = (index.lookup id).or (if other = id then some position else none) := by
  unfold note
  split
  · rename_i i hi
    split
    · rename_i h
      rw [← h, hi]
      rfl
    · rw [Option.or_none]
  · rw [List.lookup_append, List.lookup_cons]
    by_cases h : other = id
    · simp [h]
    · rw [beq_eq_false_iff_ne.2 (Ne.symm h), if_neg h]
      rfl

/-- The index has the position of the first node with an identifier, unless it had one before. -/
theorem lookup_indexFrom (id : NodeId) : ∀ (nodes : List Node) (index : List (NodeId × Nat))
    (position : Nat), (indexFrom index position nodes).lookup id
      = (index.lookup id).or ((nodes.findIdx? fun n => n.id == id).map (position + ·))
  | [], index, _ => by simp [indexFrom]
  | n :: r, index, position => by
    rw [indexFrom, lookup_indexFrom id r, lookup_note, Option.or_assoc, List.findIdx?_cons]
    by_cases h : n.id = id
    · simp [h]
    · simp only [h, if_false, Option.none_or, beq_iff_eq, Option.map_map]
      congr 2
      funext i
      exact Nat.add_right_comm position 1 i

theorem lookup_index (g : Graph) (id : NodeId) :
    g.index.lookup id = g.nodes.findIdx? fun n => n.id == id := by
  rw [g.index_eq, lookup_indexFrom]
  simp

theorem node?_eq_find? (g : Graph) (id : NodeId) :
    g.node? id = g.nodes.find? fun n => n.id == id := by
  rw [node?, lookup_index, List.find?_eq_bind_findIdx?_getElem?]

/-! ## What the index holds -/

theorem nodup_note {index : List (NodeId × Nat)} (keys : (index.map Prod.fst).Nodup) (id : NodeId)
    (position : Nat) : ((note index id position).map Prod.fst).Nodup := by
  unfold note
  split
  · exact keys
  · rename_i absent
    exact Keys.nodup_concat keys absent position

theorem nodup_indexFrom : ∀ (nodes : List Node) {index : List (NodeId × Nat)} (position : Nat),
    (index.map Prod.fst).Nodup → ((indexFrom index position nodes).map Prod.fst).Nodup
  | [], _, _, keys => keys
  | n :: r, _, position, keys => nodup_indexFrom r (position + 1) (nodup_note keys n.id position)

theorem nodup_index (g : Graph) : (g.index.map Prod.fst).Nodup := by
  rw [g.index_eq]
  exact nodup_indexFrom g.nodes 0 List.nodup_nil

/-- The node stands at that position, and is the first one that has the identifier. -/
structure FirstAt (nodes : List Node) (id : NodeId) (i : Nat) (n : Node) : Prop where
  here : nodes[i]? = some n
  id_eq : n.id = id
  earlier : ∀ j < i, ∀ m, nodes[j]? = some m → m.id ≠ id

theorem FirstAt.lt {nodes : List Node} {id : NodeId} {i : Nat} {n : Node}
    (first : FirstAt nodes id i n) : i < nodes.length :=
  (List.getElem?_eq_some_iff.1 first.here).1

theorem lookup_index_iff (g : Graph) {id : NodeId} {i : Nat} :
    g.index.lookup id = some i ↔ ∃ n, FirstAt g.nodes id i n := by
  rw [lookup_index, List.findIdx?_eq_some_iff_getElem]
  constructor
  · rintro ⟨lt, own, earlier⟩
    refine ⟨g.nodes[i], List.getElem?_eq_getElem lt, beq_iff_eq.1 own, fun j hj m hm same => ?_⟩
    obtain ⟨hlt, rfl⟩ := List.getElem?_eq_some_iff.1 hm
    exact earlier j hj (beq_iff_eq.2 same)
  · rintro ⟨n, here, own, earlier⟩
    obtain ⟨lt, rfl⟩ := List.getElem?_eq_some_iff.1 here
    refine ⟨lt, beq_iff_eq.2 own, fun j hj same => ?_⟩
    exact earlier j hj _ (List.getElem?_eq_getElem (Nat.lt_trans hj lt)) (beq_iff_eq.1 same)

/-- What stands in the index is found in it, and is a position of a node. -/
theorem lookup_index_of_mem (g : Graph) {p : NodeId × Nat} (hp : p ∈ g.index) :
    g.index.lookup p.1 = some p.2 ∧ p.2 < g.nodeCount := by
  have found := (Keys.lookup_eq_some_iff g.nodup_index).2 hp
  obtain ⟨n, first⟩ := g.lookup_index_iff.1 found
  exact ⟨found, first.lt⟩

theorem mem_keys_index_iff (g : Graph) {id : NodeId} :
    id ∈ g.index.map Prod.fst ↔ ∃ n ∈ g.nodes, n.id = id := by
  rw [← not_iff_not, ← Keys.lookup_eq_none_iff, lookup_index, List.findIdx?_eq_none_iff]
  simp

theorem node?_eq_some_iff (g : Graph) {id : NodeId} {n : Node} :
    g.node? id = some n ↔ ∃ i, FirstAt g.nodes id i n := by
  rw [node?, Option.bind_eq_some_iff]
  refine exists_congr fun i => ?_
  rw [lookup_index_iff]
  constructor
  · rintro ⟨⟨m, first⟩, here⟩
    rw [first.here] at here
    cases here
    exact first
  · exact fun first => ⟨⟨n, first⟩, first.here⟩

theorem node?_eq_none_iff (g : Graph) {id : NodeId} :
    g.node? id = none ↔ ∀ n ∈ g.nodes, n.id ≠ id := by
  rw [node?_eq_find?, List.find?_eq_none]
  simp

/-! ## What is found in the graph -/

theorem id_of_node? {g : Graph} {id : NodeId} {n : Node} (h : g.node? id = some n) : n.id = id := by
  rw [node?_eq_find?] at h
  simpa using List.find?_some h

theorem mem_nodes_of_node? {g : Graph} {id : NodeId} {n : Node} (h : g.node? id = some n) :
    n ∈ g.nodes := by
  rw [node?_eq_find?] at h
  exact List.mem_of_find?_eq_some h

variable {g : Graph} {id : NodeId} {e : Edge}

theorem mem_outgoing_iff : e ∈ g.outgoing id ↔ e ∈ g.edges ∧ e.source = id := by
  simp [outgoing]

theorem mem_of_firstOutgoing? (h : g.firstOutgoing? id = some e) : e ∈ g.outgoing id :=
  List.mem_of_head? h

theorem mem_of_outgoingAt? {handle : String} (h : g.outgoingAt? id handle = some e) :
    e ∈ g.outgoing id :=
  List.mem_of_find?_eq_some h

end Graph

end Dialogue
