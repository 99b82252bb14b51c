import Mathlib.Data.List.Basic
import Dialogue.Graph.Basic
import Dialogue.Proofs.Json.Fields

/-!
# The data of one node

A node of a kind that its tag stands for is made of data that fits, and an unsupported node under
its tag of any other (`NodeKind.isFor_or_unsupported`). Data never makes a node unreadable, so a
graph that is read is read with any other data for one of its nodes, and only that node changes
(`Graph.ofJson?_replaceData`).
-/

namespace Dialogue

open Json

/-! ## Kinds and their tags -/

namespace NodeKind

/-- The type tag stands for kinds of this sort. Quick replies have three: two of them announce the
type of the header. -/
def IsFor (tag : String) : NodeKind → Prop
  | .quickReply content => tag = "quickReply"
    ∨ ∃ header, content.media = some header
      ∧ (header.mediaType = .image ∧ tag = "quickReplyImage"
        ∨ header.mediaType = .video ∧ tag = "quickReplyVideo")
  | .unsupported _ _ => False
  | kind => kind.tag = tag

/-- The kind is one that the tag stands for, or it keeps the tag of what it could not be. -/
def IsForOrUnsupported (tag : String) (kind : NodeKind) : Prop :=
  kind.IsFor tag ∨ ∃ reason, kind = .unsupported tag reason

theorem isFor_ofContent {α : Type} {tag : String} {wrap : α → NodeKind} (content : Option α)
    (fits : ∀ content, (wrap content).IsFor tag) :
    (ofContent tag (content.map wrap)).IsForOrUnsupported tag := by
  cases content with
  | none => exact .inr ⟨_, rfl⟩
  | some content => exact .inl (fits content)

theorem isFor_ofMediaReply {tag : String} {mediaType : MediaType}
    (announces : mediaType = .image ∧ tag = "quickReplyImage"
      ∨ mediaType = .video ∧ tag = "quickReplyVideo")
    (url : Option String) (content : Option QuickReply) :
    (ofMediaReply tag mediaType url content).IsForOrUnsupported tag := by
  unfold ofMediaReply
  split
  · exact .inr ⟨_, rfl⟩
  · split
    · exact .inl (.inr ⟨_, rfl, announces⟩)
    · exact .inl (.inr ⟨_, rfl, announces⟩)
    · exact .inr ⟨_, rfl⟩

theorem isFor_or_unsupported (tag : String) (data : Json) :
    (ofParts tag data).IsForOrUnsupported tag := by
  unfold ofParts
  dsimp only
  split
  · exact isFor_ofContent _ fun _ => rfl
  · exact isFor_ofContent _ fun _ => rfl
  · exact isFor_ofContent _ fun _ => rfl
  · exact isFor_ofContent _ fun _ => .inl rfl
  · exact isFor_ofMediaReply (.inl ⟨rfl, rfl⟩) _ _
  · exact isFor_ofMediaReply (.inr ⟨rfl, rfl⟩) _ _
  · exact isFor_ofContent _ fun _ => rfl
  · exact isFor_ofContent _ fun _ => rfl
  · exact isFor_ofContent _ fun _ => rfl
  · exact isFor_ofContent _ fun _ => rfl
  · exact isFor_ofContent _ fun _ => rfl
  · exact isFor_ofContent _ fun _ => rfl
  · exact .inr ⟨_, rfl⟩

end NodeKind

/-! ## Nodes -/

theorem Node.ofJson?_eq (j : Json) : ofJson? j = ((j.field? 0 ["id"]).bind str?).bind fun id =>
    ((j.field? 1 ["type"]).bind str?).bind fun tag =>
      if j.endsAt 3 then some ⟨id, .ofParts tag ((j.field? 2 ["data"]).getD .null)⟩ else none := by
  unfold ofJson? fields
  rw [record?_eq_reading]
  simp only [reading_required_bind, reading_withDefault_bind, reading_pure]
  cases j.field? 2 ["data"] <;> rfl

/-- Other data is read as a node of the same identifier and of the same tag. -/
theorem Node.ofJson?_setField {m : Members} {n : Node} (read : ofJson? (.obj m) = some n) :
    ∃ tag, m.get? "id" = some (.str n.id) ∧ m.get? "type" = some (.str tag)
      ∧ ∀ data, ofJson? ((Json.obj m).setField 2 "data" data) = some ⟨n.id, .ofParts tag data⟩ := by
  have str {j : Option Json} {s : String} (h : j.bind str? = some s) : j = some (.str s) := by
    match j, h with
    | some (.str s), h => rw [← Option.some.inj h]
  rw [ofJson?_eq] at read
  obtain ⟨id, hid, read⟩ := Option.bind_eq_some_iff.1 read
  obtain ⟨tag, htag, read⟩ := Option.bind_eq_some_iff.1 read
  obtain rfl : _ = n := Option.some.inj read
  have named (name : String) (place : Nat) : field? place [name] (.obj m) = m.get? name := by
    cases h : Members.get? name m <;> simp [field?, h]
  refine ⟨tag, named "id" 0 ▸ str hid, named "type" 1 ▸ str htag, fun data => ?_⟩
  rw [ofJson?_eq, field?_setField_of_ne (by decide) (by decide), hid,
    field?_setField_of_ne (by decide) (by decide), htag]
  simp [setField, field?, endsAt]

/-! ## Lists -/

theorem mapM_eq_some_iff {α β : Type} {f : α → Option β} {items : List α} :
    ∀ {l : List β}, items.mapM f = some l ↔ items.map f = l.map some := by
  induction items with
  | nil =>
    intro l
    cases l <;> simp
  | cons j items ih =>
    intro l
    cases l with
    | nil => simp [Option.bind_eq_some_iff]
    | cons a l => simp [Option.bind_eq_some_iff, ih]

/-! ## Graphs -/

namespace Graph

/-- The items that nodes are read from. -/
def nodeItems (doc : Json) : List Json := ((doc.field? 0 ["nodes"]).bind arr?).getD []

/-- The document with other data for the node at a position. -/
def replaceData (doc : Json) (i : Nat) (data : Json) : Json :=
  doc.setField 0 "nodes" (.arr ((nodeItems doc).modify i fun node => node.setField 2 "data" data))

theorem ofJson?_eq (doc : Json) : ofJson? doc
    = ((doc.field? 0 ["nodes"]).elim (some []) (list? Node.ofJson?)).bind fun nodes =>
      ((doc.field? 1 ["edges"]).elim (some []) (list? Edge.ofJson?)).bind fun edges =>
        if doc.endsAt 2 then some (.ofParts nodes edges) else none := by
  unfold ofJson? fields
  rw [record?_eq_reading]
  simp only [reading_withDefault_bind, reading_pure]

theorem nodeItems_eq {doc node : Json} {i : Nat} (at_ : (nodeItems doc)[i]? = some node) :
    doc.field? 0 ["nodes"] = some (.arr (nodeItems doc)) := by
  unfold nodeItems at at_ ⊢
  match doc.field? 0 ["nodes"], at_ with
  | some (.arr items), _ => rfl

/-- Each node is read from its item, and with other items in their place the document is read with
the nodes of those and with the same edges. -/
theorem of_ofJson? {doc : Json} {g : Graph} (read : ofJson? doc = some g) {items : List Json}
    (nodes : doc.field? 0 ["nodes"] = some (.arr items)) :
    items.map Node.ofJson? = g.nodes.map some
      ∧ ∀ {items' : List Json} {nodes' : List Node}, items'.map Node.ofJson? = nodes'.map some →
        ofJson? (doc.setField 0 "nodes" (.arr items')) = some (.ofParts nodes' g.edges) := by
  rw [ofJson?_eq, nodes] at read
  obtain ⟨ns, hns, read⟩ := Option.bind_eq_some_iff.1 read
  obtain ⟨edges, hedges, read⟩ := Option.bind_eq_some_iff.1 read
  split at read
  · rename_i ends
    obtain rfl : _ = g := Option.some.inj read
    refine ⟨mapM_eq_some_iff.1 hns, fun {items' nodes'} each => ?_⟩
    have again : list? Node.ofJson? (.arr items') = some nodes' := mapM_eq_some_iff.2 each
    rw [ofJson?_eq, field?_setField_self nodes, field?_setField_of_ne (by decide) (by decide),
      endsAt_setField]
    simp only [Option.elim_some, again, hedges, Option.bind_some, ends, if_true]
    rfl
  · cases read

/-- Whatever data a node of a readable document is given, the document stays readable: the edges,
the other nodes and all identifiers and positions are as they were, and the node is of a kind that
its tag stands for, or unsupported under its tag. -/
theorem ofJson?_replaceData {doc : Json} {g : Graph} (read : ofJson? doc = some g) {i : Nat}
    {m : Members} (at_ : (nodeItems doc)[i]? = some (.obj m)) (data : Json) :
    ∃ n tag, g.nodes[i]? = some n ∧ m.get? "id" = some (.str n.id)
      ∧ m.get? "type" = some (.str tag)
      ∧ ∃ g' kind, ofJson? (replaceData doc i data) = some g'
        ∧ g'.edges = g.edges ∧ g'.nodes = g.nodes.set i ⟨n.id, kind⟩
        ∧ g'.nodes.map Node.id = g.nodes.map Node.id ∧ (∀ j ≠ i, g'.nodes[j]? = g.nodes[j]?)
        ∧ kind.IsForOrUnsupported tag := by
  obtain ⟨each, replaced⟩ := of_ofJson? read (nodeItems_eq at_)
  have here : g.nodes[i]?.map some = some (Node.ofJson? (.obj m)) := by
    rw [← List.getElem?_map, ← each, List.getElem?_map, at_]
    rfl
  obtain ⟨n, hn, readNode⟩ := Option.map_eq_some_iff.1 here
  obtain ⟨tag, hid, htag, other⟩ := Node.ofJson?_setField readNode.symm
  have each' : ((nodeItems doc).modify i fun node => node.setField 2 "data" data).map Node.ofJson?
      = (g.nodes.set i ⟨n.id, .ofParts tag data⟩).map some := by
    rw [List.modify_eq_set_getElem?, at_, List.map_set, ← each, ← other data, ← List.map_set]
    rfl
  refine ⟨n, tag, hn, hid, htag, _, .ofParts tag data, replaced each', rfl, rfl, ?_,
    fun j hj => List.getElem?_set_ne (Ne.symm hj), NodeKind.isFor_or_unsupported tag data⟩
  obtain ⟨inside, rfl⟩ := List.getElem?_eq_some_iff.1 hn
  have kept : (g.nodes.map Node.id).set i _ = _ :=
    List.set_getElem_self ((g.nodes.length_map Node.id).symm ▸ inside)
  show (g.nodes.set i _).map Node.id = g.nodes.map Node.id
  rw [List.getElem_map] at kept
  rw [List.map_set, kept]

/-- The item of a menu under a picture. -/
def menuItem : Members :=
  [("data", .obj [("mediaUrl", .str "https://cdn.example.com/menu.png")]), ("id", .str "menu"),
    ("type", .str "quickReplyImage")]

/-- A greeting that leads to a menu. -/
def greetedMenu : Json :=
  .obj [("edges", .arr [.obj [("source", .str "hello"), ("target", .str "menu")]]),
    ("nodes", .arr [.obj [("data", .obj [("text", .str "Hello")]), ("id", .str "hello"),
      ("type", .str "textMessage")], .obj menuItem])]

theorem ofJson?_replaceData_menu : ∃ g, ofJson? greetedMenu = some g
    ∧ (nodeItems greetedMenu)[1]? = some (.obj menuItem)
    ∧ ∃ g' kind, ofJson? (replaceData greetedMenu 1 (.int 7)) = some g'
      ∧ g'.edges = g.edges ∧ g'.nodes[0]? = g.nodes[0]? ∧ g'.nodes[1]? = some ⟨"menu", kind⟩
      ∧ kind = .unsupported "quickReplyImage" .undecodable := by
  obtain ⟨g, read⟩ : ∃ g, ofJson? greetedMenu = some g := ⟨_, rfl⟩
  have at_ : (nodeItems greetedMenu)[1]? = some (.obj menuItem) := rfl
  obtain ⟨n, tag, hn, hid, htag, g', kind, read', edges, nodes, -, others, isFor⟩ :=
    ofJson?_replaceData read at_ (.int 7)
  have here : g'.nodes[1]? = some ⟨n.id, kind⟩ := by
    rw [nodes, List.getElem?_set_self (List.getElem?_eq_some_iff.1 hn).1]
  have id : n.id = "menu" := (Json.str.inj (Option.some.inj hid)).symm
  rw [id] at here
  refine ⟨g, read, at_, g', kind, read', edges, others 0 (by decide), here, ?_⟩
  have seven : (ofJson? (replaceData greetedMenu 1 (.int 7))).map (fun g => g.nodes[1]?)
      = some (some ⟨"menu", .unsupported "quickReplyImage" .undecodable⟩) := rfl
  rw [read', Option.map_some, here] at seven
  simpa using seven

end Graph

end Dialogue
