import Dialogue.Graph.Basic
import Dialogue.Message.Outbound
import Dialogue.Proofs.Graph.Contents

/-!
# Graphs that are written and read back

A node is written under the tag and with the data of its kind, and these two decide what is read
back (`NodeKind.ofParts_tag_data`). Almost every kind comes back as it was. A quick reply under a
document or a sound comes back under a picture, since the tags tell only videos from pictures; what
it sends stays the same (`Node.eq_stored_iff`). A node that was not understood is written without
its data, and comes back as its tag with no data would.
-/

namespace Dialogue

open FieldReader Json

/-- A header as it comes back: the tags of quick replies know videos and pictures. -/
def MediaHeader.stored (h : MediaHeader) : MediaHeader :=
  if h.mediaType = .video then h else { h with mediaType := .image }

theorem MediaHeader.url_stored (h : MediaHeader) : h.stored.url = h.url := by
  unfold stored
  split <;> rfl

namespace NodeKind

/-- A kind as it comes back. -/
def stored : NodeKind → NodeKind
  | .quickReply content => .quickReply { content with media := content.media.map .stored }
  | .unsupported tag _ => standard tag
  | kind => kind

theorem message?_stored {kind : NodeKind} (supported : kind.category ≠ .unsupported) :
    kind.stored.message? = kind.message? := by
  cases kind with
  | quickReply c =>
    have urls : (c.media.map MediaHeader.stored).map MediaHeader.url = c.media.map (·.url) := by
      rw [Option.map_map]
      exact congrArg (Option.map · c.media) (funext MediaHeader.url_stored)
    simp only [stored, message?, QuickReply.message, urls]
  | unsupported tag reason => exact absurd rfl supported
  | _ => rfl

theorem ofContent_map {α : Type} (tag : String) {content : Option α} {c : α} {kind : α → NodeKind}
    (read : content = some c) : ofContent tag (content.map kind) = kind c := by
  rw [read]
  rfl

theorem ofMediaReply_of_header {tag : String} {mediaType : MediaType} {url : Option String}
    {content : Option QuickReply} {c : QuickReply} {header : MediaHeader}
    (read : content = some c) (above : c.media = some header) :
    ofMediaReply tag mediaType url content
      = .quickReply { c with media := some { header with mediaType } } := by
  simp only [ofMediaReply, read, above]

theorem ofParts_tag_data (kind : NodeKind) : ofParts kind.tag kind.data = kind.stored := by
  cases kind with
  | text c => exact ofContent_map "textMessage" c.ofJson?_toJson
  | media c => exact ofContent_map "mediaMessage" c.ofJson?_toJson
  | location c => exact ofContent_map "locationMessage" c.ofJson?_toJson
  | quickReply c =>
    have read := c.ofJson?_toJson
    obtain ⟨header, body, footer, media, buttons⟩ := c
    match media with
    | none => exact ofContent_map "quickReply" read
    | some ⟨.video, _⟩ | some ⟨.image, _⟩ | some ⟨.document, _⟩ | some ⟨.audio, _⟩ =>
      exact ofMediaReply_of_header read rfl
  | list c => exact ofContent_map "listMessage" c.ofJson?_toJson
  | buttons c => exact ofContent_map "buttonsMessage" c.ofJson?_toJson
  | carousel c => exact ofContent_map "carousel" c.ofJson?_toJson
  | httpCall c => exact ofContent_map "httpAction" c.ofJson?_toJson
  | bookAppointment c => exact ofContent_map "bookAppointment" c.ofJson?_toJson
  | checkBookings c => exact ofContent_map "checkBookings" c.ofJson?_toJson
  | unsupported tag reason => rfl

/-- The header of a quick reply. -/
def header? : NodeKind → Option MediaHeader
  | .quickReply content => content.media
  | _ => none

/-- The header, if there is one, is of a type that quick replies have a tag for. -/
def HasTag (kind : NodeKind) : Prop :=
  ∀ header, kind.header? = some header → header.mediaType = .image ∨ header.mediaType = .video

theorem stored_eq_self_iff {kind : NodeKind} (supported : kind.category ≠ .unsupported) :
    kind.stored = kind ↔ kind.HasTag := by
  cases kind with
  | quickReply c =>
    obtain ⟨header, body, footer, media, buttons⟩ := c
    match media with
    | none => exact iff_of_true rfl fun _ h => by cases h
    | some ⟨.video, url⟩ => exact iff_of_true rfl fun _ h => by cases h; exact .inr rfl
    | some ⟨.image, url⟩ => exact iff_of_true rfl fun _ h => by cases h; exact .inl rfl
    | some ⟨.document, url⟩ | some ⟨.audio, url⟩ =>
      refine iff_of_false (fun h => by cases h) fun tagged => ?_
      rcases tagged _ rfl with h | h <;> cases h
  | unsupported tag reason => exact absurd rfl supported
  | _ => exact iff_of_true rfl fun _ h => by cases h

/-- Whatever is supported is what some data stands for. -/
theorem exists_ofParts {kind : NodeKind} (supported : kind.category ≠ .unsupported) :
    ∃ tag data, ofParts tag data = kind := by
  cases kind with
  | quickReply c => exact ⟨"quickReply", c.toJson, ofContent_map "quickReply" c.ofJson?_toJson⟩
  | unsupported tag reason => exact absurd rfl supported
  | _ =>
    have same := (stored_eq_self_iff supported).2 fun _ h => by cases h
    exact ⟨_, _, (ofParts_tag_data _).trans same⟩

end NodeKind

namespace Node

theorem ofJson?_object (id : NodeId) (tag : String) (data : Json) :
    ofJson? (.object [("id", .str id), ("type", .str tag), ("data", data)])
      = some ⟨id, .ofParts tag data⟩ :=
  record?_obj (by simp [fields, -bind_pure_comp])

/-- A node as it comes back. -/
def stored (n : Node) : Node := ⟨n.id, n.kind.stored⟩

theorem ofJson?_toJson (n : Node) : ofJson? n.toJson = some n.stored :=
  (ofJson?_object n.id n.kind.tag n.kind.data).trans (by rw [n.kind.ofParts_tag_data]; rfl)

/-- Every supported node is the node of some document. Written and read back it is what it was,
unless it is a quick reply under a header that has no tag, and then the header is a picture's. In
any case it sends what it sent. -/
theorem eq_stored_iff (n : Node) (supported : n.kind.category ≠ .unsupported) :
    (∃ doc, ofJson? doc = some n)
    ∧ ∃ m, ofJson? n.toJson = some m ∧ (m = n ↔ n.kind.HasTag)
      ∧ (∀ c header, n.kind = .quickReply c → c.media = some header → ¬ n.kind.HasTag →
        m = ⟨n.id, .quickReply { c with media := some { header with mediaType := .image } }⟩)
      ∧ m.kind.message? = n.kind.message? := by
  refine ⟨?_, n.stored, n.ofJson?_toJson, ?_, ?_, NodeKind.message?_stored supported⟩
  · obtain ⟨tag, data, h⟩ := NodeKind.exists_ofParts supported
    exact ⟨_, h ▸ ofJson?_object n.id tag data⟩
  · rw [← NodeKind.stored_eq_self_iff supported]
    exact ⟨congrArg kind, congrArg (Node.mk n.id)⟩
  · intro c header hc above untagged
    have other : header.mediaType ≠ .video := by
      intro video
      refine untagged fun h found => .inr ?_
      rw [hc, NodeKind.header?, above] at found
      rw [← Option.some.inj found, video]
    obtain ⟨id, kind⟩ := n
    subst hc
    simp [stored, NodeKind.stored, above, MediaHeader.stored, other]

/-- A quick reply under a document. -/
def underDocument : Node :=
  let header : MediaHeader := ⟨.document, "https://cdn.example.com/menu.pdf"⟩
  ⟨"menu", .quickReply ⟨none, "", none, some header, []⟩⟩

theorem stored_underDocument :
    ofJson? (.obj [("data", .obj [("media", .obj [("mediaType", .str "document"),
      ("url", .str "https://cdn.example.com/menu.pdf")])]), ("id", .str "menu"),
      ("type", .str "quickReply")]) = some underDocument
    ∧ underDocument.kind.category ≠ .unsupported
    ∧ ∃ m, ofJson? underDocument.toJson = some m ∧ m ≠ underDocument
      ∧ m.kind.message? = underDocument.kind.message? := by
  have supported : underDocument.kind.category ≠ .unsupported := nofun
  obtain ⟨-, m, read, same, -, sent⟩ := eq_stored_iff underDocument supported
  refine ⟨rfl, supported, m, read, fun h => ?_, sent⟩
  rcases same.1 h _ rfl with h | h <;> cases h

end Node

/-! ## Graphs -/

namespace Edge

theorem handle_ne_empty {doc : Json} {e : Edge} (read : ofJson? doc = some e) :
    e.handle ≠ some "" := by
  have handles : Gives (withDefault ["sourceHandle"] none handleOfJson?) (· ≠ some "") := by
    refine gives_withDefault nofun fun j h hj => ?_
    obtain ⟨given, -, rfl⟩ := Option.map_eq_some_iff.1 hj
    intro empty
    simpa using Option.filter_eq_some_iff.1 empty
  suffices gives : Gives fields fun e => e.handle ≠ some "" from of_record? gives read
  unfold fields
  exact gives_true.bind fun id _ => gives_true.bind fun source _ =>
    handles.bind fun handle named => gives_true.bind fun target _ => gives_pure named

theorem ofJson?_toJson {e : Edge} (named : e.handle ≠ some "") : ofJson? e.toJson = some e := by
  have handle : e.handle.elim (some none) (handleOfJson? ∘ .str) = some e.handle := by
    cases h : e.handle with
    | none => rfl
    | some s =>
      have present : s ≠ "" := fun empty => named (by rw [h, empty])
      simp [handleOfJson?, nullable?, present]
  exact record?_obj (by simp [fields, -bind_pure_comp, handle])

end Edge

namespace Graph

theorem handles_ne_empty {doc : Json} {g : Graph} (read : ofJson? doc = some g) :
    ∀ e ∈ g.edges, e.handle ≠ some "" := by
  suffices gives : Gives fields fun g => ∀ e ∈ g.edges, e.handle ≠ some "" from
    of_record? gives read
  unfold fields
  refine gives_true.bind fun nodes _ => Gives.bind ?_ fun edges named => gives_pure named
  exact gives_withDefault (List.forall_mem_nil _) fun j edges h =>
    forall_mem_of_list? (fun _ _ => Edge.handle_ne_empty) h

/-- A graph that was read comes back with its nodes as they come back, and with the same edges. -/
theorem ofJson?_toJson {g : Graph} (named : ∀ e ∈ g.edges, e.handle ≠ some "") :
    ofJson? g.toJson = some (.ofParts (g.nodes.map .stored) g.edges) := by
  have nodes : list? Node.ofJson? (.arr (g.nodes.map Node.toJson)) = some (g.nodes.map .stored) :=
    list?_map_of fun n _ => n.ofJson?_toJson
  have edges : list? Edge.ofJson? (.arr (g.edges.map Edge.toJson)) = some (g.edges.map id) :=
    list?_map_of fun e he => Edge.ofJson?_toJson (named e he)
  exact record?_obj (by simp [fields, -bind_pure_comp, nodes, edges])

end Graph

end Dialogue
