import Dialogue.Graph.Node

/-!
# Graphs

A graph is a list of nodes and a list of edges, both in the order they were authored, with an
index from identifiers to positions. Of several nodes with one identifier the first is the one
that is found. Edges may leave or reach identifiers that no node has. A graph carries the proof
that its index is the one of its nodes.
-/

namespace Dialogue

open FieldReader

/-- A connection from a node, or from one of its handles, to another. -/
structure Edge where
  id : Option String
  source : NodeId
  handle : Option String
  target : NodeId
  deriving DecidableEq, Repr

namespace Edge

/-- An edge without identifier. -/
def plain (source target : NodeId) (handle : Option String) : Edge := ⟨none, source, handle, target⟩

/-- Reads a handle; an empty one is the default handle. -/
def handleOfJson? (j : Json) : Option (Option String) :=
  (j.nullable? Json.str?).map fun h => h.filter fun s => !s.isEmpty

def fields : FieldReader Edge := do
  let id ← FieldReader.optional ["id"] Json.str?
  let source ← required ["source"] Json.str?
  let handle ← withDefault ["sourceHandle"] none handleOfJson?
  let target ← required ["target"] Json.str?
  return ⟨id, source, handle, target⟩

def ofJson? : Json → Option Edge := Json.record? fields

def toJson (e : Edge) : Json :=
  .object (Json.member? "id" .str e.id ++ [("source", .str e.source), ("target", .str e.target)] ++
    Json.member? "sourceHandle" .str e.handle)

/-- Whether the edge leaves a handle of that name. -/
def hasHandle (e : Edge) (handle : String) : Bool := e.handle == some handle

/-- Whether the edge leaves the default handle. -/
def isUnqualified (e : Edge) : Bool := e.handle.isNone

end Edge

namespace Graph

/-- Notes the position of an identifier that has none yet. -/
def note (index : List (NodeId × Nat)) (id : NodeId) (position : Nat) : List (NodeId × Nat) :=
  match index.lookup id with
  | some _ => index
  | none => index ++ [(id, position)]

/-- The positions of the identifiers of nodes that stand from a position on. -/
def indexFrom (index : List (NodeId × Nat)) (position : Nat) : List Node → List (NodeId × Nat)
  | [] => index
  | n :: r => indexFrom (note index n.id position) (position + 1) r

theorem indexFrom_concat (n : Node) : ∀ (nodes : List Node) (index : List (NodeId × Nat))
    (position : Nat), indexFrom index position (nodes ++ [n])
      = note (indexFrom index position nodes) n.id (position + nodes.length)
  | [], _, _ => rfl
  | m :: r, index, position => by
    simp only [List.cons_append, indexFrom, List.length_cons]
    rw [indexFrom_concat n r, Nat.add_right_comm, Nat.add_assoc]

end Graph

/-- The nodes and edges of a workflow. -/
structure Graph where
  nodes : List Node
  edges : List Edge
  index : List (NodeId × Nat)
  index_eq : index = Graph.indexFrom [] 0 nodes
  deriving DecidableEq, Repr

namespace Graph

/-- A graph without nodes and edges. -/
def empty : Graph := ⟨[], [], [], rfl⟩

/-- The graph of nodes and edges. -/
def ofParts (nodes : List Node) (edges : List Edge) : Graph :=
  ⟨nodes, edges, indexFrom [] 0 nodes, rfl⟩

/-- Adds a node behind the others. -/
def addNode (g : Graph) (n : Node) : Graph where
  nodes := g.nodes ++ [n]
  edges := g.edges
  index := note g.index n.id g.nodes.length
  index_eq := by rw [g.index_eq, indexFrom_concat, Nat.zero_add]

/-- Adds an edge behind the others. -/
def addEdge (g : Graph) (e : Edge) : Graph := { g with edges := g.edges ++ [e] }

def fields : FieldReader Graph := do
  let nodes ← withDefault ["nodes"] [] (Json.list? Node.ofJson?)
  let edges ← withDefault ["edges"] [] (Json.list? Edge.ofJson?)
  return .ofParts nodes edges

def ofJson? : Json → Option Graph := Json.record? fields

def toJson (g : Graph) : Json :=
  .object [("nodes", .arr (g.nodes.map Node.toJson)), ("edges", .arr (g.edges.map Edge.toJson))]

/-- The node with an identifier. -/
def node? (g : Graph) (id : NodeId) : Option Node := (g.index.lookup id).bind fun i => g.nodes[i]?

/-- Whether a node has the identifier. -/
def contains (g : Graph) (id : NodeId) : Bool := (g.index.lookup id).isSome

/-- The number of nodes. -/
def nodeCount (g : Graph) : Nat := g.nodes.length

/-- The edges that leave an identifier. -/
def outgoing (g : Graph) (id : NodeId) : List Edge := g.edges.filter (·.source == id)

/-- The first edge that leaves an identifier. -/
def firstOutgoing? (g : Graph) (id : NodeId) : Option Edge := (g.outgoing id).head?

/-- The first edge that leaves a handle of an identifier. -/
def outgoingAt? (g : Graph) (id : NodeId) (handle : String) : Option Edge :=
  (g.outgoing id).find? (·.hasHandle handle)

/-- The first edge that leaves a handle of that name, of any identifier. -/
def edgeAt? (g : Graph) (handle : String) : Option Edge := g.edges.find? (·.hasHandle handle)

end Graph

end Dialogue
