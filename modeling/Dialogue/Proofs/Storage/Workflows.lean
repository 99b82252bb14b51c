import Dialogue.Proofs.Graph.Stored
import Dialogue.Proofs.Ident.Written
import Dialogue.Storage.Workflows

/-!
# Workflows that are stored and loaded

The row that a workflow is stored in can be read (`workflowRow_storedRow`), and holds its graph as
it is written. A node that was not understood has lost its data there, and no data is what stands
for standard settings: the node stays unsupported only if its tag has none (`stored_unsupported`).
-/

namespace Dialogue

namespace NodeKind

/-- The type tags of the kinds that need no settings. -/
def standardTags : List String :=
  ["textMessage", "mediaMessage", "locationMessage", "quickReply", "listMessage",
    "buttonsMessage", "carousel", "httpAction", "bookAppointment", "checkBookings"]

theorem standard_of_mem : ∀ tag ∈ standardTags,
    (standard tag).category ≠ .unsupported ∧ (standard tag).tag = tag := by
  decide

theorem standard_of_not_mem {tag : String} (h : tag ∉ standardTags) :
    ∃ reason, standard tag = .unsupported tag reason := by
  unfold standard ofParts
  dsimp only
  split
  -- Quick replies with media need an address; the last case is every tag that is not known.
  case h_5 | h_6 | h_13 => exact ⟨_, rfl⟩
  all_goals exact absurd (by decide) h

/-- Data that is no record is of no use. -/
theorem ofParts_bool : ∀ tag ∈ standardTags,
    ofParts tag (.bool true) = .unsupported tag .undecodable := by
  decide

end NodeKind

namespace RowReader

variable {α β : Type} {row : Row}

theorem bind_of_eq_ok {r : RowReader α} {f : α → RowReader β} {a : α} (read : r row = .ok a) :
    (r >>= f) row = f a row := by
  show (r row).bind (f · row) = _
  rw [read]
  rfl

theorem column_of_lookup {name : String} {f : Extractor α} {v : SqlValue} {a : α}
    (held : row.lookup name = some v) (fits : f v = some a) : column name f row = .ok a := by
  simp only [column, held, fits]

end RowReader

namespace Storage

/-- The columns of a workflow, in the order in which they are stored. -/
def workflowColumns : List String :=
  ["id", "account_id", "name", "is_active", "entry_node_id", "webhook_token", "graph_data",
    "created_at", "updated_at"]

example : ", ".intercalate workflowColumns = Statement.workflowColumns := by decide

/-- The row that a workflow is stored in. -/
def storedRow (w : Workflow) : Row := workflowColumns.zip (Statement.putWorkflow w).params

theorem workflowRow_storedRow {w : Workflow} {g : Graph}
    (read : Graph.ofJson? w.graph.toJson = some g) :
    workflowRow (storedRow w) = .ok (.ok { w with
      graph := g
      createdAt := w.createdAt.toMicrosecond
      updatedAt := w.updatedAt.toMicrosecond }) := by
  have id : readId .workflow "workflow id" w.id.text = .ok w.id := by
    rw [readId, Id.parse_text]
  have account : readAccount w.accountId.text = .ok w.accountId := by
    rw [readAccount, readId, Id.parse_text]
  have entry : RowReader.column "entry_node_id" (SqlValue.nullable? SqlValue.text?) (storedRow w)
      = .ok w.entryNodeId :=
    RowReader.column_of_lookup (v := .ofOption .text w.entryNodeId) rfl
      (by cases w.entryNodeId <;> rfl)
  unfold workflowRow
  refine (RowReader.bind_of_eq_ok (a := w.id.text) rfl).trans ?_
  refine (RowReader.bind_of_eq_ok (a := w.accountId.text) rfl).trans ?_
  refine (RowReader.bind_of_eq_ok (a := w.name) rfl).trans ?_
  refine (RowReader.bind_of_eq_ok (a := w.isActive) rfl).trans ?_
  refine (RowReader.bind_of_eq_ok (a := w.entryNodeId) entry).trans ?_
  refine (RowReader.bind_of_eq_ok (a := w.webhookToken) rfl).trans ?_
  refine (RowReader.bind_of_eq_ok (a := w.graph.toJson) rfl).trans ?_
  refine (RowReader.bind_of_eq_ok (a := w.createdAt.toMicrosecond) rfl).trans ?_
  refine (RowReader.bind_of_eq_ok (a := w.updatedAt.toMicrosecond) rfl).trans ?_
  simp only [id, account, read]
  rfl

/-- A graph that was read is stored and loaded with all its nodes and edges. A node of it that is
unsupported comes back unsupported, under the same tag, if its tag is not one of those that need no
settings. If it is one of them, as data of no use can make it, it comes back with standard
settings. -/
theorem stored_unsupported {doc : Json} {w : Workflow} (read : Graph.ofJson? doc = some w.graph) :
    (∀ tag ∈ NodeKind.standardTags, ∃ data,
      NodeKind.ofParts tag data = .unsupported tag .undecodable)
    ∧ ∃ g, Graph.ofJson? w.graph.toJson = some g
      ∧ workflowRow (storedRow w) = .ok (.ok { w with
        graph := g
        createdAt := w.createdAt.toMicrosecond
        updatedAt := w.updatedAt.toMicrosecond })
      ∧ g.edges = w.graph.edges ∧ g.nodes.length = w.graph.nodes.length
      ∧ ∀ (i : Nat) (id : NodeId) (tag : String) (reason : UnsupportedReason),
        w.graph.nodes[i]? = some ⟨id, .unsupported tag reason⟩ →
        (tag ∉ NodeKind.standardTags →
          ∃ reason', g.nodes[i]? = some ⟨id, .unsupported tag reason'⟩)
        ∧ (tag ∈ NodeKind.standardTags → g.nodes[i]? = some ⟨id, .standard tag⟩
          ∧ (NodeKind.standard tag).category ≠ .unsupported
          ∧ (NodeKind.standard tag).tag = tag) := by
  have loaded := Graph.ofJson?_toJson (Graph.handles_ne_empty read)
  refine ⟨fun tag h => ⟨.bool true, NodeKind.ofParts_bool tag h⟩, _, loaded,
    workflowRow_storedRow loaded, rfl, List.length_map _, ?_⟩
  intro i id tag reason stands
  have back : (w.graph.nodes.map Node.stored)[i]? = some ⟨id, .standard tag⟩ := by
    rw [List.getElem?_map, stands]
    rfl
  refine ⟨fun h => ?_, fun h => ⟨back, NodeKind.standard_of_mem tag h⟩⟩
  obtain ⟨reason', same⟩ := NodeKind.standard_of_not_mem h
  exact ⟨reason', same ▸ back⟩

namespace NumberForText

/-- A document whose only node holds a number where its text should be. -/
def doc : Json :=
  .obj [("nodes", .arr [.obj [("data", .obj [("text", .int 5)]), ("id", .str "hello"),
    ("type", .str "textMessage")]])]

def now : Instant := (Instant.ofSeconds? 1773026100).get rfl

def workflow : Workflow :=
  { Workflow.new ⟨⟨2⟩⟩ ⟨⟨1⟩⟩ "Greeter" "token" now with
    graph := .ofParts [⟨"hello", .unsupported "textMessage" .undecodable⟩] [] }

end NumberForText

open NumberForText in
/-- The node was not understood, and comes back as one that sends an empty text. -/
theorem stored_numberForText : Graph.ofJson? doc = some workflow.graph
    ∧ ∃ g, Graph.ofJson? workflow.graph.toJson = some g
      ∧ workflowRow (storedRow workflow) = .ok (.ok { workflow with graph := g })
      ∧ g.nodes[0]? = some ⟨"hello", .text ⟨""⟩⟩ := by
  have read : Graph.ofJson? doc = some workflow.graph := rfl
  obtain ⟨-, g, loaded, row, -, -, each⟩ := stored_unsupported read
  obtain ⟨-, back⟩ := each 0 "hello" "textMessage" .undecodable rfl
  exact ⟨read, g, loaded, row, (back (by decide)).1⟩

end Storage

end Dialogue
