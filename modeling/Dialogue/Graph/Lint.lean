import Dialogue.Graph.Basic

/-!
# What is wrong with a graph

Unsupported nodes, edges without ends, handles with more than one edge, and loops that a chain
could run through without waiting for a reply. A loop uses only nodes that send without waiting or
act; it is reported as a set of identifiers that reach one another.
-/

namespace Dialogue

/-- Something wrong with a graph. -/
inductive GraphIssue where
  | duplicateHandle (source : NodeId) (handle : String)
  | danglingEdge (source target : NodeId)
  | unknownSource (source : NodeId)
  | unsupportedNode (id : NodeId) (tag : String)
  | chainCycle (ids : List NodeId)
  deriving DecidableEq, Repr

namespace GraphIssue

/-- The issue in words. -/
def message : GraphIssue → String
  | .duplicateHandle source handle =>
    "node " ++ source ++ " has more than one edge for handle '" ++ handle ++ "'"
  | .danglingEdge source target => "edge from " ++ source ++ " points at missing node " ++ target
  | .unknownSource source => "edge leaves missing node " ++ source
  | .unsupportedNode id tag => "node " ++ id ++ " has unsupported type '" ++ tag ++ "'"
  | .chainCycle ids => "nodes form a loop without a reply: " ++ ", ".intercalate ids

/-- The name of the kind of issue. -/
def kind : GraphIssue → String
  | .duplicateHandle _ _ => "duplicate_handle"
  | .danglingEdge _ _ => "dangling_edge"
  | .unknownSource _ => "unknown_source"
  | .unsupportedNode _ _ => "unsupported_node"
  | .chainCycle _ => "chain_cycle"

end GraphIssue

namespace Graph

variable (g : Graph)

/-- Whether a chain goes on after a node of a kind without waiting and without a booking. -/
def continues (k : NodeKind) : Bool := k.category == .message || k.category == .action

/-- The identifiers of nodes after which a chain goes on, each once. -/
def chainingIds : List NodeId := ((g.nodes.filter fun n => continues n.kind).map Node.id).eraseDups

/-- The targets of an identifier's edges among some identifiers. -/
def successors (ids : List NodeId) (id : NodeId) : List NodeId :=
  ((g.outgoing id).map Edge.target).filter ids.contains

/-- Adds the members of a list that are not there yet. -/
def addNew (seen : List NodeId) (new : List NodeId) : List NodeId :=
  new.foldl (fun s id => if s.contains id then s else s ++ [id]) seen

/-- Adds the successors of all that was reached, a number of times. -/
def spread (ids : List NodeId) : Nat → List NodeId → List NodeId
  | 0, reached => reached
  | n + 1, reached => spread ids n (addNew reached (reached.flatMap (g.successors ids)))

/-- The identifiers that a path of at least one edge leads to, inside some identifiers. -/
def reachable (ids : List NodeId) (id : NodeId) : List NodeId :=
  g.spread ids ids.length (addNew [] (g.successors ids id))

/-- Inserts a name into a sorted list. -/
def insertName (name : NodeId) : List NodeId → List NodeId
  | [] => [name]
  | a :: r => if a < name then a :: insertName name r else name :: a :: r

/-- Names in the order of their texts. -/
def sortNames (names : List NodeId) : List NodeId := names.foldr insertName []

/-- The identifiers that one reaches and that reach it back. -/
def loopOf (ids : List NodeId) (reach : NodeId → List NodeId) (id : NodeId) : List NodeId :=
  ids.filter fun other => (reach id).contains other && (reach other).contains id

/-- The loops of chaining identifiers. They are listed by their first members, an order of this
library: a search in depth finds a loop before those that lead to it. -/
def loops : List (List NodeId) :=
  let ids := g.chainingIds
  let table := ids.map fun id => (id, g.reachable ids id)
  let reach := fun id => (table.lookup id).getD []
  (ids.filter fun id => (loopOf ids reach id).head? == some id).map fun id =>
    sortNames (loopOf ids reach id)

/-- The issues of unsupported nodes. -/
def unsupportedIssues : List GraphIssue :=
  (g.nodes.filter fun n => n.kind.category == .unsupported).map fun n =>
    .unsupportedNode n.id n.kind.tag

/-- The issue of an edge's source. -/
def sourceIssue (e : Edge) : List GraphIssue :=
  if g.contains e.source then [] else [.unknownSource e.source]

/-- The issue of an edge's target. -/
def targetIssue (e : Edge) : List GraphIssue :=
  if g.contains e.target then [] else [.danglingEdge e.source e.target]

/-- The issue of an edge whose handle an earlier edge left. -/
def handleIssue (earlier : List Edge) (e : Edge) : List GraphIssue :=
  match e.handle with
  | some h =>
    if earlier.any fun d => d.source == e.source && d.hasHandle h then
      [.duplicateHandle e.source h]
    else []
  | none => []

/-- The issues of edges behind earlier ones. -/
def edgeIssues (earlier : List Edge) : List Edge → List GraphIssue
  | [] => []
  | e :: r =>
    g.sourceIssue e ++ g.targetIssue e ++ handleIssue earlier e ++ edgeIssues (earlier ++ [e]) r

/-- Everything wrong with the graph: nodes first, then edges in order, then loops. -/
def issues : List GraphIssue :=
  g.unsupportedIssues ++ g.edgeIssues [] g.edges ++ g.loops.map .chainCycle

end Graph

end Dialogue
