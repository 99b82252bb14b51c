import Dialogue.Proofs.Graph.Index
import Dialogue.Proofs.SideBySide

/-!
# Graphs that are built piece by piece

Adding nodes and edges one after another leaves the graph of them all (`foldl_add`). So it makes no
difference in what order nodes come between edges: where the nodes stay in order, and the edges, the
graph is the same, and its index holds of every identifier the position of its first node
(`built_in_any_order`).
-/

namespace Dialogue

namespace Graph

/-- Adds a node or an edge. -/
def add (g : Graph) : Node ⊕ Edge → Graph
  | .inl n => g.addNode n
  | .inr e => g.addEdge e

/-- The graph that is left when nodes and edges were added one after another. -/
def built (parts : List (Node ⊕ Edge)) : Graph := parts.foldl add empty

theorem eq_ofParts (g : Graph) : g = ofParts g.nodes g.edges := by
  obtain ⟨nodes, edges, index, rfl⟩ := g
  rfl

theorem foldl_add : ∀ (parts : List (Node ⊕ Edge)) (g : Graph), parts.foldl add g
    = ofParts (g.nodes ++ parts.filterMap Sum.getLeft?) (g.edges ++ parts.filterMap Sum.getRight?)
  | [], g => by
    rw [List.filterMap_nil, List.filterMap_nil, List.append_nil, List.append_nil]
    exact g.eq_ofParts
  | .inl n :: parts, g => by
    rw [List.foldl_cons, foldl_add parts]
    exact congrArg (ofParts · _) (List.append_assoc g.nodes [n] _)
  | .inr e :: parts, g => by
    rw [List.foldl_cons, foldl_add parts]
    exact congrArg (ofParts _) (List.append_assoc g.edges [e] _)

variable {nodes : List Node} {edges : List Edge} {parts : List (Node ⊕ Edge)}

theorem built_of_woven (woven : Woven (nodes.map .inl) (edges.map .inr) parts) :
    built parts = ofParts nodes edges := by
  have left : parts.filterMap Sum.getLeft? = nodes := by
    rw [woven.filterMap_eq (by simp), List.filterMap_map]
    exact List.filterMap_some
  have right : parts.filterMap Sum.getRight? = edges := by
    rw [woven.symm.filterMap_eq (by simp), List.filterMap_map]
    exact List.filterMap_some
  rw [built, foldl_add, left, right]
  rfl

/-- Nodes and edges that are added in any order that keeps the nodes in order, and the edges, make
the graph of them. Its index holds each identifier of a node once, beside the position of the first
node that has it, and a look-up finds that node. -/
theorem built_in_any_order (woven : Woven (nodes.map .inl) (edges.map .inr) parts) :
    built parts = ofParts nodes edges
    ∧ ((built parts).index.map Prod.fst).Nodup
    ∧ (∀ id, id ∈ (built parts).index.map Prod.fst ↔ ∃ n ∈ nodes, n.id = id)
    ∧ (∀ id i, (built parts).index.lookup id = some i ↔ ∃ n, FirstAt nodes id i n)
    ∧ (∀ p ∈ (built parts).index,
      (built parts).index.lookup p.1 = some p.2 ∧ p.2 < (built parts).nodeCount)
    ∧ ∀ id, (∀ n, (built parts).node? id = some n ↔ ∃ i, FirstAt nodes id i n)
      ∧ ((built parts).node? id = none ↔ ∀ n ∈ nodes, n.id ≠ id) := by
  rw [built_of_woven woven]
  exact ⟨rfl, nodup_index _, fun id => mem_keys_index_iff _, fun id i => lookup_index_iff _,
    fun p hp => lookup_index_of_mem _ hp,
    fun id => ⟨fun n => node?_eq_some_iff _, node?_eq_none_iff _⟩⟩

/-- Two nodes with one identifier and another one between them. -/
def twins : List Node :=
  [⟨"menu", .text ⟨"Hello"⟩⟩, ⟨"end", .text ⟨"Bye"⟩⟩, ⟨"menu", .text ⟨"Hello again"⟩⟩]

/-- Edges from and to the two, and one to an identifier that no node has. -/
def twinEdges : List Edge := [.plain "end" "menu" none, .plain "menu" "ghost" none]

/-- The nodes and the edges by turns. -/
def twinParts : List (Node ⊕ Edge) := byTurns (twins.map .inl) (twinEdges.map .inr)

theorem built_in_any_order_twins : Woven (twins.map .inl) (twinEdges.map .inr) twinParts
    ∧ built twinParts = ofParts twins twinEdges
    ∧ (built twinParts).node? "menu" = some ⟨"menu", .text ⟨"Hello"⟩⟩
    ∧ (built twinParts).node? "ghost" = none := by
  have woven : Woven (twins.map .inl) (twinEdges.map .inr) twinParts := woven_byTurns _ _
  obtain ⟨whole, -, -, -, -, found⟩ := built_in_any_order woven
  have first : FirstAt twins "menu" 0 ⟨"menu", .text ⟨"Hello"⟩⟩ := ⟨rfl, rfl, nofun⟩
  exact ⟨woven, whole, ((found "menu").1 _).2 ⟨0, first⟩, (found "ghost").2.2 (by decide)⟩

end Graph

end Dialogue
