import Dialogue.Graph.Route
import Dialogue.Proofs.Graph.Index

/-!
# What a reply can lead to

Each of the rules that match a reply looks at some of the nodes that offer it and has its own way to
choose among their edges. None of them finds an edge that has nothing to do with the reply: it has
the reply's handle or leaves a node that offers the reply (`concerns_of_edgeBy?`). The last rule
looks at all of these nodes and takes any edge, so together the rules miss none
(`routeReply?_eq_none_iff`).
-/

namespace Dialogue

namespace Graph

variable {g : Graph} {replyId : String} {n : Node} {e : Edge}

/-- An interactive node of the graph that a participant can have the reply from. -/
structure Offers (g : Graph) (replyId : String) (n : Node) : Prop where
  mem : n ∈ g.nodes
  interactive : n.isInteractive = true
  offers : n.kind.offers replyId = true

/-- An edge of the graph that has the reply's handle, or leaves a node that offers the reply. -/
def Concerns (g : Graph) (replyId : String) (e : Edge) : Prop :=
  e ∈ g.edges ∧ (e.handle = some replyId ∨ ∃ n, g.Offers replyId n ∧ e.source = n.id)

/-- Whichever edge of a node that offers the reply is chosen, it concerns the reply. -/
theorem Offers.concerns (offers : g.Offers replyId n) (h : e ∈ g.outgoing n.id) :
    g.Concerns replyId e := by
  rw [mem_outgoing_iff] at h
  exact ⟨h.1, .inr ⟨n, offers, h.2⟩⟩

/-! ## Offering nodes -/

theorem mem_of_edgeOfOffering? (h : g.edgeOfOffering? n replyId = some e) :
    e ∈ g.outgoing n.id := by
  unfold edgeOfOffering? at h
  rcases Option.or_eq_some_iff.1 h with h | ⟨-, h⟩
  · exact mem_of_outgoingAt? h
  · exact mem_of_firstOutgoing? h

/-- A node that offers the reply has no edge for it only if it has no edge at all. -/
theorem edgeOfOffering?_eq_none_iff :
    g.edgeOfOffering? n replyId = none ↔ g.outgoing n.id = [] := by
  unfold edgeOfOffering?
  rw [Option.or_eq_none_iff, firstOutgoing?, List.head?_eq_none_iff]
  refine ⟨And.right, fun h => ⟨?_, h⟩⟩
  rw [outgoingAt?, h, List.find?_nil]

theorem isInteractive_of_isButtonMessage (h : isButtonMessage n.kind = true) :
    n.isInteractive = true := by
  unfold isButtonMessage at h
  unfold Node.isInteractive NodeKind.isInteractive
  split at h
  · simp_all [NodeKind.category]
  · simp_all [NodeKind.category]
  · simp_all [NodeKind.category]
  · simp at h

/-! ## Carousels -/

theorem id_of_pressed? : ∀ {buttons : List (String × ActionButton)} {k m : Nat} {card : String}
    {b : ActionButton}, pressed? replyId k buttons = some (card, b, m) →
      (card, b) ∈ buttons ∧ b.id = replyId
  | [], _, _, _, _, h => by simp [pressed?] at h
  | (card', b') :: r, k, m, card, b, h => by
    unfold pressed? at h
    split at h
    · rename_i hid
      simp only [Option.some.injEq, Prod.mk.injEq] at h
      obtain ⟨rfl, rfl, -⟩ := h
      exact ⟨List.mem_cons_self, hid⟩
    · obtain ⟨hmem, hid⟩ := id_of_pressed? h
      exact ⟨List.mem_cons_of_mem _ hmem, hid⟩

theorem mem_of_edgeOfCard? {card : String} {b : ActionButton}
    (h : g.edgeOfCard? n card b = some e) : e ∈ g.outgoing n.id := by
  unfold edgeOfCard? at h
  rcases Option.or_eq_some_iff.1 h with h | ⟨-, h⟩
  · exact mem_of_outgoingAt? h
  · exact mem_of_outgoingAt? h

theorem mem_of_edgeOfTitle? {b : ActionButton} (h : g.edgeOfTitle? n b = some e) :
    e ∈ g.outgoing n.id := by
  unfold edgeOfTitle? at h
  split at h
  · simp at h
  · exact List.mem_of_find?_eq_some h

theorem mem_of_edgeOfPosition? {c : Carousel} {b : ActionButton} {k : Nat}
    (h : g.edgeOfPosition? n c b k = some e) : e ∈ g.outgoing n.id := by
  unfold edgeOfPosition? at h
  split at h
  · exact List.mem_of_getElem? h
  · simp at h

/-- By card, by title or by position, a carousel that is asked for the edge of a reply offers the
reply, and the edge is one of its own. -/
theorem of_edgeOfCarousel? (h : g.edgeOfCarousel? n replyId = some e) :
    n.isInteractive = true ∧ n.kind.offers replyId = true ∧ e ∈ g.outgoing n.id := by
  unfold edgeOfCarousel? at h
  split at h
  · rename_i c hc
    split at h
    · rename_i card b k hb
      obtain ⟨hmem, hid⟩ := id_of_pressed? hb
      refine ⟨by simp [Node.isInteractive, NodeKind.isInteractive, hc, NodeKind.category], ?_, ?_⟩
      · rw [NodeKind.offers, hc, List.contains_iff_mem]
        exact List.mem_map.2 ⟨(card, b), hmem, hid⟩
      · rcases Option.or_eq_some_iff.1 h with h | ⟨-, h⟩
        · exact mem_of_edgeOfCard? h
        · rcases Option.or_eq_some_iff.1 h with h | ⟨-, h⟩
          · exact mem_of_edgeOfTitle? h
          · exact mem_of_edgeOfPosition? h
    · simp at h
  · simp at h

/-! ## The rules -/

/-- The edge that a rule finds concerns the reply. -/
theorem concerns_of_edgeBy? {rule : RouteRule} (h : g.edgeBy? replyId rule = some e) :
    g.Concerns replyId e := by
  cases rule with
  | exactHandle =>
    have hhandle := List.find?_some h
    rw [Edge.hasHandle, beq_iff_eq] at hhandle
    exact ⟨List.mem_of_find?_eq_some h, .inl hhandle⟩
  | legacyButtonScan =>
    obtain ⟨n, hn, he⟩ := List.exists_of_findSome?_eq_some h
    simp only [List.mem_filter, Bool.and_eq_true] at hn
    exact Offers.concerns ⟨hn.1, isInteractive_of_isButtonMessage hn.2.1, hn.2.2⟩
      (mem_of_edgeOfOffering? he)
  | carouselCard =>
    obtain ⟨n, hn, he⟩ := List.exists_of_findSome?_eq_some h
    obtain ⟨interactive, offers, hmem⟩ := of_edgeOfCarousel? he
    exact Offers.concerns ⟨hn, interactive, offers⟩ hmem
  | anyInteractive =>
    obtain ⟨n, hn, he⟩ := List.exists_of_findSome?_eq_some h
    simp only [List.mem_filter, Bool.and_eq_true] at hn
    exact Offers.concerns ⟨hn.1, hn.2.1, hn.2.2⟩ (mem_of_edgeOfOffering? he)

theorem mem_routeRules (rule : RouteRule) : rule ∈ routeRules := by cases rule <;> decide

/-- The first and the last rule alone find an edge for every reply that an edge concerns. -/
theorem not_edgeBy?_of_routeReply?_eq_none (h : g.routeReply? replyId = none) :
    ¬ g.Concerns replyId e := by
  have none_by : ∀ rule, g.edgeBy? replyId rule = none := fun rule => by
    simpa using List.findSome?_eq_none_iff.1 h rule (mem_routeRules rule)
  rintro ⟨he, hhandle | ⟨n, offers, hsource⟩⟩
  · have exact := List.find?_eq_none.1 (none_by .exactHandle) e he
    simp [Edge.hasHandle, hhandle] at exact
  · have hn : n ∈ g.nodes.filter fun n => n.isInteractive && n.kind.offers replyId :=
      List.mem_filter.2 ⟨offers.mem, by simp [offers.interactive, offers.offers]⟩
    have noEdge := edgeOfOffering?_eq_none_iff.1
      (List.findSome?_eq_none_iff.1 (none_by .anyInteractive) n hn)
    have hout : e ∈ g.outgoing n.id := mem_outgoing_iff.2 ⟨he, hsource⟩
    rw [noEdge] at hout
    simp at hout

theorem edgeBy?_of_routeReply? {rule : RouteRule} (h : g.routeReply? replyId = some (rule, e)) :
    g.edgeBy? replyId rule = some e := by
  obtain ⟨rule', -, h⟩ := List.exists_of_findSome?_eq_some h
  obtain ⟨e', he, h⟩ := Option.map_eq_some_iff.1 h
  cases h
  exact he

theorem routeReply?_eq_none_iff (g : Graph) (replyId : String) :
    g.routeReply? replyId = none ↔ ∀ e, ¬ g.Concerns replyId e := by
  refine ⟨fun h e => not_edgeBy?_of_routeReply?_eq_none h, fun none => ?_⟩
  cases h : g.routeReply? replyId with
  | none => rfl
  | some found => exact absurd (concerns_of_edgeBy? (edgeBy?_of_routeReply? h)) (none found.2)

/-- A reply leads nowhere exactly if no edge has its handle and no interactive node that offers it
has an edge; and the edge that it leads along has its handle or leaves such a node. -/
theorem routeReply?_complete_sound (g : Graph) (replyId : String) :
    (g.routeReply? replyId = none ↔ (∀ e ∈ g.edges, e.handle ≠ some replyId)
      ∧ ∀ n ∈ g.nodes, n.isInteractive = true → n.kind.offers replyId = true →
        ∀ e ∈ g.edges, e.source ≠ n.id)
    ∧ ∀ rule e, g.routeReply? replyId = some (rule, e) → e ∈ g.edges
      ∧ (e.handle = some replyId ∨ ∃ n ∈ g.nodes, n.isInteractive = true
        ∧ n.kind.offers replyId = true ∧ e.source = n.id) := by
  constructor
  · rw [routeReply?_eq_none_iff]
    constructor
    · intro none
      refine ⟨fun e he hhandle => none e ⟨he, .inl hhandle⟩, fun n hn hi ho e he hs => ?_⟩
      exact none e ⟨he, .inr ⟨n, ⟨hn, hi, ho⟩, hs⟩⟩
    · rintro ⟨unhandled, bare⟩ e ⟨he, hhandle | ⟨n, offers, hsource⟩⟩
      · exact unhandled e he hhandle
      · exact bare n offers.mem offers.interactive offers.offers e he hsource
  · intro rule e h
    obtain ⟨he, hhandle | ⟨n, offers, hsource⟩⟩ :=
      concerns_of_edgeBy? (edgeBy?_of_routeReply? h)
    · exact ⟨he, .inl hhandle⟩
    · exact ⟨he, .inr ⟨n, offers.mem, offers.interactive, offers.offers, hsource⟩⟩

end Graph

end Dialogue
