import Dialogue.Delivery.Event
import Dialogue.Message.Outbound
import Dialogue.Proofs.Graph.Replies
import Dialogue.Proofs.Json.Record

/-!
# Every option that is sent can be pressed

A participant presses what the message of a node shows: the identifiers are read off the message
as the provider takes it (`InteractiveMessage.replyIds?`), not off the node. They are the node's
own, in the order they were authored, and come back with a namespace in front of them, which goes.
If the node has an edge, none of them leads nowhere (`pressed_leads_on`).
-/

namespace Dialogue

open Json

/-! ## The options of a message -/

@[simp]
theorem Json.get?_object (key : String) (l : List (String × Json)) :
    (object l).get? key = l.reverse.lookup key := Members.get?_ofList key l

/-- The values under a key, read one by one. -/
def Json.listAt? {α : Type} (key : String) (f : Json → Option α) (j : Json) : Option (List α) :=
  (j.get? key).bind (Json.list? f)

theorem Json.listAt?_of_get? {α β : Type} {key : String} {f : Json → Option β} {g : α → Json}
    {h : α → β} {l : List α} {j : Json} (found : j.get? key = some (.arr (l.map g)))
    (read : ∀ a, f (g a) = some (h a)) : j.listAt? key f = some (l.map h) := by
  rw [listAt?, found]
  exact list?_map_of fun a _ => read a

namespace InteractiveMessage

/-- The identifier of a button or a row. -/
def optionId? (j : Json) : Option String := (j.get? "id").bind Json.str?

/-- The identifiers of buttons beside one another. -/
def buttonIds? (j : Json) : Option (List String) := j.listAt? "buttons" optionId?

/-- The identifiers that a participant can press, as the layout has them. -/
def replyIds? (m : InteractiveMessage) : Option (List String) :=
  match m.layout with
  | .button => buttonIds? m.action
  | .list => do
    let list ← m.action.get? "list"
    let sections ← list.listAt? "sections" (listAt? "rows" optionId?)
    return sections.flatten
  | .carousel => do
    let cards ← m.action.listAt? "cards" fun card => (card.get? "action").bind buttonIds?
    return cards.flatten

end InteractiveMessage

open InteractiveMessage

theorem ReplyButton.optionId?_action (b : ReplyButton) : optionId? b.action = some b.id := by
  simp [optionId?, ReplyButton.action]

theorem ListRow.optionId?_toJson (r : ListRow) : optionId? r.toJson = some r.id := by
  simp [optionId?, ListRow.toJson]

theorem ActionButton.optionId?_providerJson (b : ActionButton) :
    optionId? b.providerJson = some b.id := by
  unfold ActionButton.providerJson
  cases b.action <;> simp [optionId?, providerMembers]

theorem ListSection.rowIds?_toJson (s : ListSection) :
    s.toJson.listAt? "rows" optionId? = some (s.rows.map ListRow.id) :=
  listAt?_of_get? (by simp [ListSection.toJson]) ListRow.optionId?_toJson

theorem buttonIds?_actionsJson (buttons : List ActionButton) :
    buttonIds? (actionsJson buttons) = some (buttons.map ActionButton.id) :=
  listAt?_of_get? (by simp [actionsJson]) ActionButton.optionId?_providerJson

theorem CarouselCard.buttonIds?_providerJson (c : CarouselCard) :
    (c.providerJson.get? "action").bind buttonIds? = some (c.buttons.map ActionButton.id) := by
  simp [CarouselCard.providerJson, buttonIds?_actionsJson]

/-! ## The options of a node -/

theorem QuickReply.replyIds?_message (c : QuickReply) :
    c.message.replyIds? = some (NodeKind.quickReply c).replyIds := by
  have buttons : buttonIds? c.message.action = some (c.buttons.map ReplyButton.id) :=
    listAt?_of_get? (by simp [QuickReply.message]) ReplyButton.optionId?_action
  exact buttons

theorem ListMessage.replyIds?_message (c : ListMessage) :
    c.message.replyIds? = some (NodeKind.list c).replyIds := by
  have sections : ∀ label, (object [("label", label),
      ("sections", .arr (c.sections.map ListSection.toJson))]).listAt? "sections"
      (listAt? "rows" optionId?) = some (c.sections.map fun s => s.rows.map ListRow.id) :=
    fun label => listAt?_of_get? (by simp) ListSection.rowIds?_toJson
  simp [replyIds?, ListMessage.message, sections, NodeKind.replyIds, ListMessage.rows,
    List.flatMap_def, Function.comp_def]

theorem ButtonsMessage.replyIds?_message (c : ButtonsMessage) :
    c.message.replyIds? = some (NodeKind.buttons c).replyIds :=
  buttonIds?_actionsJson c.buttons

theorem Carousel.replyIds?_message (c : Carousel) :
    c.message.replyIds? = some (NodeKind.carousel c).replyIds := by
  have cards : c.message.action.listAt? "cards" (fun card => (card.get? "action").bind buttonIds?)
      = some (c.cards.map fun card => card.buttons.map ActionButton.id) :=
    listAt?_of_get? (by simp [Carousel.message]) CarouselCard.buttonIds?_providerJson
  have layout : c.message.layout = .carousel := rfl
  simp [replyIds?, layout, cards, NodeKind.replyIds, Carousel.buttons, List.flatMap_def,
    Function.comp_def]

/-- The message of an interactive node shows the identifiers of the node, in their order. -/
theorem NodeKind.exists_message?_of_isInteractive {k : NodeKind} (h : k.isInteractive = true) :
    ∃ m, k.message? = some (.interactive m) ∧ m.replyIds? = some k.replyIds := by
  cases k with
  | quickReply c => exact ⟨_, rfl, c.replyIds?_message⟩
  | list c => exact ⟨_, rfl, c.replyIds?_message⟩
  | buttons c => exact ⟨_, rfl, c.replyIds?_message⟩
  | carousel c => exact ⟨_, rfl, c.replyIds?_message⟩
  | _ => cases h

/-! ## Pressing them -/

/-- What stands in front of the last colon goes. -/
theorem logicalReplyId_namespaced {id : String} (h : ':' ∉ id.toList) (space : String) :
    logicalReplyId (space ++ ":" ++ id) = id := by
  have plain : ∀ c ∈ id.toList.reverse, (c != ':') = true := by
    intro c hc
    rw [bne_iff_ne]
    rintro rfl
    exact h (List.mem_reverse.1 hc)
  have chars : (space ++ ":" ++ id).toList.reverse
      = id.toList.reverse ++ ':' :: space.toList.reverse := by
    simp [String.toList_append]
  unfold logicalReplyId
  rw [chars, List.takeWhile_append_of_pos plain, List.takeWhile_cons_of_neg (by simp),
    List.append_nil, List.reverse_reverse, String.ofList_toList]

namespace Graph

variable {g : Graph} {n : Node}

theorem exists_routeReply?_of_offers {replyId : String} (offers : g.Offers replyId n)
    (hout : g.outgoing n.id ≠ []) : ∃ rule e, g.routeReply? replyId = some (rule, e) := by
  obtain ⟨e, he⟩ := List.exists_mem_of_ne_nil _ hout
  cases h : g.routeReply? replyId with
  | none => exact absurd (offers.concerns he) ((g.routeReply?_eq_none_iff replyId).1 h e)
  | some found => exact ⟨found.1, found.2, rfl⟩

/-- The message of an interactive node with an edge shows the node's identifiers in their order.
Each of them without a colon is what is left when it comes back behind a namespace, and leads along
an edge of the graph. -/
theorem pressed_leads_on (hn : n ∈ g.nodes) (interactive : n.isInteractive = true)
    (hout : g.outgoing n.id ≠ []) :
    ∃ m, n.kind.message? = some (.interactive m) ∧ m.replyIds? = some n.kind.replyIds
      ∧ ∀ id ∈ n.kind.replyIds, ':' ∉ id.toList →
        (∀ space, logicalReplyId (space ++ ":" ++ id) = id)
        ∧ ∃ rule e, g.routeReply? id = some (rule, e) ∧ e ∈ g.edges := by
  obtain ⟨m, sent, shown⟩ := NodeKind.exists_message?_of_isInteractive interactive
  refine ⟨m, sent, shown, fun id hid plain => ⟨logicalReplyId_namespaced plain, ?_⟩⟩
  obtain ⟨rule, e, found⟩ :=
    exists_routeReply?_of_offers ⟨hn, interactive, List.contains_iff_mem.2 hid⟩ hout
  exact ⟨rule, e, found, (concerns_of_edgeBy? (edgeBy?_of_routeReply? found)).1⟩

/-- A carousel whose only edge leaves from no button. -/
def offersNode : Node :=
  ⟨"offers", .carousel ⟨"Pick one", [⟨"first", "", none, [⟨"buy", "Buy", .quickReply⟩,
    ⟨"call", "Call us", .call "+911"⟩]⟩, ⟨"second", "", none, [⟨"rent", "Rent", .quickReply⟩]⟩]⟩⟩

theorem pressed_leads_on_call : ∃ m, offersNode.kind.message? = some (.interactive m)
    ∧ m.replyIds? = some ["buy", "call", "rent"]
    ∧ logicalReplyId ("shop:7" ++ ":" ++ "call") = "call"
    ∧ ∃ rule e, (ofParts [offersNode] [.plain "offers" "thanks" none]).routeReply? "call"
      = some (rule, e) ∧ e.target = "thanks" := by
  obtain ⟨m, sent, shown, pressed⟩ :=
    pressed_leads_on (g := ofParts [offersNode] [.plain "offers" "thanks" none]) (n := offersNode)
      List.mem_cons_self rfl (by decide +kernel)
  obtain ⟨back, rule, e, found, he⟩ := pressed "call" (by decide +kernel) (by decide +kernel)
  cases List.mem_singleton.1 he
  exact ⟨m, sent, shown, back "shop:7", rule, _, found, rfl⟩

end Graph

end Dialogue
