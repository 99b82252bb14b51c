import Dialogue.Proofs.Graph.Unhandled
import Mathlib.Data.List.Nodup

/-!
# Quick replies by their positions

A carousel with an edge for each of its quick replies can leave it to their order which edge belongs
to which, as long as nothing else decides first (`Ordered`): no handle speaks of the replies, and
nothing else in the graph offers them. Then they lead along the edges one by one
(`quickReplies_in_order`), however they are spread over the cards and whatever other buttons stand
between them. That no two lead along the same edge is said of the graph with numbered edges, where
edges that are alike are told apart.
-/

namespace Dialogue

theorem Text.contains_iff_infix {inner : List Char} : ∀ {s : List Char},
    contains inner s = true ↔ inner <:+: s
  | [] => by simp [contains]
  | c :: s => by
    rw [contains, Bool.or_eq_true, List.isPrefixOf_iff_prefix, contains_iff_infix,
      List.infix_cons_iff]

/-- What stands at a place of a filtered list stands behind as many others that pass. -/
theorem exists_split_of_getElem?_filter {α : Type} {p : α → Bool} {a : α} :
    ∀ {l : List α} {k : Nat}, (l.filter p)[k]? = some a →
      ∃ before after, l = before ++ a :: after ∧ before.countP p = k ∧ p a = true
  | [], _, h => by simp at h
  | b :: l, k, h => by
    cases hb : p b with
    | false =>
      rw [List.filter_cons_of_neg (by simp [hb])] at h
      obtain ⟨before, after, rfl, hk, ha⟩ := exists_split_of_getElem?_filter h
      exact ⟨b :: before, after, rfl, by rw [List.countP_cons_of_neg (by simp [hb]), hk], ha⟩
    | true =>
      rw [List.filter_cons_of_pos hb] at h
      cases k with
      | zero =>
        obtain rfl : b = a := by simpa using h
        exact ⟨[], l, rfl, rfl, hb⟩
      | succ k =>
        rw [List.getElem?_cons_succ] at h
        obtain ⟨before, after, rfl, hk, ha⟩ := exists_split_of_getElem?_filter h
        exact ⟨b :: before, after, rfl, by rw [List.countP_cons_of_pos hb, hk], ha⟩

/-- The quick replies of all cards, each with the identifier of its card. -/
def Carousel.quickReplies (c : Carousel) : List (String × ActionButton) :=
  c.buttons.filter fun p => p.2.isQuickReply

/-- The first button of an identifier that no button before it has. -/
theorem Carousel.button?_of_split {c : Carousel} {before after : List (String × ActionButton)}
    {p : String × ActionButton} (split : c.buttons = before ++ p :: after)
    (new : p.2.id ∉ before.map fun q => q.2.id) : c.button? p.2.id = some p
      ∧ c.quickRepliesBefore p.2.id = before.countP fun q => q.2.isQuickReply := by
  have others : ∀ q ∈ before, q.2.id ≠ p.2.id := fun q hq same =>
    new (List.mem_map.2 ⟨q, hq, same⟩)
  unfold button? quickRepliesBefore
  rw [split]
  constructor
  · rw [List.find?_append, List.find?_eq_none.2 (by simpa using others), Option.none_or,
      List.find?_cons_of_pos (by simp)]
  · rw [List.takeWhile_append_of_pos (by simpa using others),
      List.takeWhile_cons_of_neg (by simp), List.append_nil]

namespace Graph

variable (g : Graph)

/-- The identifiers of all buttons and rows of the graph. -/
def replyIds : List String := g.nodes.flatMap fun n => n.kind.replyIds

/-- Only the order of its quick replies decides which edges of a carousel they lead along: there are
as many, each of their identifiers stands on one button or row of the graph only, and no handle is
one of them or, at an edge of the carousel, the identifier of a card or a text with a button's
title in it. -/
structure Ordered (n : Node) (c : Carousel) : Prop where
  mem : n ∈ g.nodes
  kind : n.kind = .carousel c
  once : ∀ p ∈ c.quickReplies, g.replyIds.count p.2.id = 1
  each : (g.outgoing n.id).length = c.quickReplies.length
  unhandled : ∀ p ∈ c.quickReplies, ∀ e ∈ g.edges, e.handle ≠ some p.2.id
  uncarded : ∀ card ∈ c.cards, ∀ e ∈ g.outgoing n.id, e.handle ≠ some card.id
  untitled : ∀ p ∈ c.buttons, p.2.title ≠ "" → ∀ e ∈ g.outgoing n.id, ∀ handle ∈ e.handle,
    ¬ p.2.title.toList <:+: handle.toList

/-- The graph with the position of each edge as its identifier. -/
def numbered : Graph :=
  { g with edges := g.edges.zipIdx.map fun p => { p.1 with id := some (toString p.2) } }

variable {g} {n : Node} {c : Carousel} {p : String × ActionButton} {k : Nat}

namespace Ordered

variable (h : g.Ordered n c)

include h

/-- No other node offers a quick reply, and the carousel offers it once. -/
theorem alone (hp : p ∈ c.quickReplies) : ∃ before after, g.nodes = before ++ n :: after
    ∧ (∀ m ∈ before ++ after, m.kind.offers p.2.id = false)
    ∧ (c.buttons.map fun q => q.2.id).count p.2.id = 1 := by
  obtain ⟨before, after, split⟩ := List.append_of_mem h.mem
  have own : n.kind.replyIds = c.buttons.map fun q => q.2.id := by rw [h.kind, NodeKind.replyIds]
  have offered : 0 < (c.buttons.map fun q => q.2.id).count p.2.id :=
    List.count_pos_iff.2 (List.mem_map.2 ⟨p, List.mem_of_mem_filter hp, rfl⟩)
  have once := h.once p hp
  unfold replyIds at once
  rw [split, List.flatMap_append, List.flatMap_cons, List.count_append, List.count_append, own]
    at once
  refine ⟨before, after, split, fun m hm => ?_, by omega⟩
  rw [Bool.eq_false_iff, ne_eq, NodeKind.offers, List.contains_iff_mem]
  intro offers
  have counted : p.2.id ∈ (before ++ after).flatMap fun m => m.kind.replyIds :=
    List.mem_flatMap.2 ⟨m, hm, offers⟩
  rw [← List.count_pos_iff, List.flatMap_append, List.count_append] at counted
  omega

theorem edgeOfTitle?_eq_none (hp : p ∈ c.buttons) : g.edgeOfTitle? n p.2 = none := by
  unfold edgeOfTitle?
  split
  · rfl
  · rename_i title
    refine List.find?_eq_none.2 fun e he => ?_
    cases handle : e.handle with
    | none => simp
    | some text =>
      rw [Text.contains_iff_infix]
      exact h.untitled p hp (by simpa [String.isEmpty_iff] using title) e he text handle

theorem outgoingAt?_card (hp : p ∈ c.buttons) : g.outgoingAt? n.id p.1 = none := by
  obtain ⟨card, hcard, hmem⟩ := List.mem_flatMap.1 hp
  obtain ⟨b, -, rfl⟩ := List.mem_map.1 hmem
  refine List.find?_eq_none.2 fun e he => ?_
  rw [Edge.hasHandle, beq_iff_eq]
  exact h.uncarded card hcard e he

/-- The carousel itself goes by the position. -/
theorem edgeOfButton?_eq (hk : c.quickReplies[k]? = some p) :
    g.edgeOfButton? p.2.id n = (g.outgoing n.id)[k]? := by
  have hp : p ∈ c.quickReplies := List.mem_of_getElem? hk
  obtain ⟨before, after, split, count, quick⟩ := exists_split_of_getElem?_filter hk
  obtain ⟨-, -, -, -, once⟩ := h.alone hp
  have new : p.2.id ∉ before.map fun q => q.2.id := by
    rw [split, List.map_append, List.map_cons, List.count_append, List.count_cons_self] at once
    exact List.count_eq_zero.1 (by omega)
  obtain ⟨found, place⟩ := Carousel.button?_of_split split new
  have inside : p ∈ c.buttons := List.mem_of_mem_filter hp
  have each : ((g.outgoing n.id).length == c.quickReplyCount) = true := beq_iff_eq.2 h.each
  unfold edgeOfButton?
  rw [h.kind]
  dsimp only
  rw [found, Option.bind_some, h.outgoingAt?_card inside, h.edgeOfTitle?_eq_none inside,
    Option.none_or, Option.none_or, place, count, edgeOfPosition?, quick, each, Bool.and_self,
    if_pos rfl]

/-- The quick reply at a place leads along the edge at that place. -/
theorem exists_edge (hk : c.quickReplies[k]? = some p) : ∃ e, (g.outgoing n.id)[k]? = some e
    ∧ g.routeReply? p.2.id = some (.carouselCard, e) := by
  have hp : p ∈ c.quickReplies := List.mem_of_getElem? hk
  have free : g.Unhandled p.2.id := h.unhandled p hp
  obtain ⟨before, after, split, others, -⟩ := h.alone hp
  have hlt : k < (g.outgoing n.id).length := by
    rw [h.each]
    exact (List.getElem?_eq_some_iff.1 hk).1
  have own : g.edgeOfButton? p.2.id n = some (g.outgoing n.id)[k] :=
    (h.edgeOfButton?_eq hk).trans (List.getElem?_eq_getElem hlt)
  have earlier : ∀ m ∈ before, g.edgeOfButton? p.2.id m = none := by
    intro m hm
    rw [← free.edgeOfCarousel?_eq]
    cases found : g.edgeOfCarousel? m p.2.id with
    | none => rfl
    | some e =>
      have offers := (of_edgeOfCarousel? found).2.1
      rw [others m (List.mem_append_left _ hm)] at offers
      cases offers
  have messages : g.firstEdgeOf? p.2.id isButtonMessage = none := by
    rw [firstEdgeOf?_eq, List.findSome?_eq_none_iff]
    intro m hm
    simp only [List.mem_filter, Bool.and_eq_true, split, List.mem_append, List.mem_cons] at hm
    obtain ⟨hm, message, offers⟩ := hm
    obtain rfl | other : m = n ∨ m ∈ before ++ after := by
      rw [List.mem_append]
      tauto
    · rw [h.kind] at message
      cases message
    · rw [others m other] at offers
      cases offers
  refine ⟨_, List.getElem?_eq_getElem hlt, ?_⟩
  rw [free.routeReply?_eq_plainRoute?, plainRoute?, messages, split, List.findSome?_append,
    List.findSome?_eq_none_iff.2 earlier, Option.none_or, List.findSome?_cons, own]
  rfl

theorem map_routeReply? : (c.quickReplies.map fun p => g.routeReply? p.2.id)
    = (g.outgoing n.id).map fun e => some (.carouselCard, e) := by
  refine List.ext_getElem? fun k => ?_
  rw [List.getElem?_map, List.getElem?_map]
  cases hk : c.quickReplies[k]? with
  | none =>
    rw [List.getElem?_eq_none_iff, ← h.each, ← List.getElem?_eq_none_iff] at hk
    rw [hk]
    rfl
  | some p =>
    obtain ⟨e, he, led⟩ := h.exists_edge hk
    rw [he, Option.map_some, led]
    rfl

end Ordered

/-! ## Telling edges apart -/

theorem toString_injective : Function.Injective (toString : Nat → String) := by
  intro i j same
  have digits := congrArg (fun s => Nat.ofDigitChars 10 s.toList 0) same
  simpa using digits

theorem nodup_edges_numbered (g : Graph) : g.numbered.edges.Nodup := by
  refine List.Nodup.of_map Edge.id ?_
  have ids : g.numbered.edges.map Edge.id
      = (List.range' 0 g.edges.length).map fun i => some (toString i) := by
    rw [numbered, List.map_map, ← List.zipIdx_map_snd, List.map_map]
    rfl
  rw [ids]
  refine List.Nodup.map (fun i j same => ?_) (List.nodup_range' 1)
  exact toString_injective (Option.some.inj same)

/-- A numbered edge leaves what the edge left, from the same handle. -/
theorem exists_edge_of_mem_numbered {e : Edge} (he : e ∈ g.numbered.edges) :
    ∃ d ∈ g.edges, e.source = d.source ∧ e.handle = d.handle := by
  obtain ⟨⟨d, i⟩, hd, rfl⟩ := List.mem_map.1 he
  exact ⟨d, List.fst_mem_of_mem_zipIdx hd, rfl, rfl⟩

theorem exists_outgoing_of_mem_numbered {e : Edge} {id : NodeId}
    (he : e ∈ g.numbered.outgoing id) : ∃ d ∈ g.outgoing id, e.handle = d.handle := by
  obtain ⟨inside, source⟩ := mem_outgoing_iff.1 he
  obtain ⟨d, hd, same, handle⟩ := exists_edge_of_mem_numbered inside
  exact ⟨d, mem_outgoing_iff.2 ⟨hd, same.symm.trans source⟩, handle⟩

theorem length_outgoing_numbered (g : Graph) (id : NodeId) :
    (g.numbered.outgoing id).length = (g.outgoing id).length := by
  have edges : g.edges = g.edges.zipIdx.map Prod.fst := (List.zipIdx_map_fst 0 g.edges).symm
  unfold outgoing
  rw [← List.countP_eq_length_filter, ← List.countP_eq_length_filter, numbered, List.countP_map,
    edges, List.countP_map, ← edges]
  rfl

theorem Ordered.numbered (h : g.Ordered n c) : g.numbered.Ordered n c where
  mem := h.mem
  kind := h.kind
  once := h.once
  each := (length_outgoing_numbered g n.id).trans h.each
  unhandled p hp e he := by
    obtain ⟨d, hd, -, handle⟩ := exists_edge_of_mem_numbered he
    rw [handle]
    exact h.unhandled p hp d hd
  uncarded card hcard e he := by
    obtain ⟨d, hd, handle⟩ := exists_outgoing_of_mem_numbered he
    rw [handle]
    exact h.uncarded card hcard d hd
  untitled p hp title e he := by
    obtain ⟨d, hd, handle⟩ := exists_outgoing_of_mem_numbered he
    rw [handle]
    exact h.untitled p hp title d hd

/-- Where only the order decides, the first quick reply leads along the first edge of the carousel,
the second along the second, and so on; no two lead along the same edge, edges that are alike being
told apart by their numbers; and some quick reply leads along each edge of the carousel. -/
theorem quickReplies_in_order (h : g.Ordered n c) :
    (∀ (k : Nat) (p : String × ActionButton), c.quickReplies[k]? = some p →
      ∃ e, (g.outgoing n.id)[k]? = some e ∧ g.routeReply? p.2.id = some (.carouselCard, e))
    ∧ (c.quickReplies.map fun p => g.numbered.routeReply? p.2.id).Nodup
    ∧ ∀ e ∈ g.outgoing n.id, ∃ p ∈ c.quickReplies,
        g.routeReply? p.2.id = some (.carouselCard, e) := by
  refine ⟨fun k p hk => h.exists_edge hk, ?_, fun e he => ?_⟩
  · rw [h.numbered.map_routeReply?]
    refine List.Nodup.map (fun d e same => ?_) ((nodup_edges_numbered g).filter _)
    exact (Prod.mk.inj (Option.some.inj same)).2
  · have led : some (.carouselCard, e) ∈ c.quickReplies.map fun p => g.routeReply? p.2.id := by
      rw [h.map_routeReply?]
      exact List.mem_map.2 ⟨e, he, rfl⟩
    exact List.mem_map.1 led

/-- A menu, and a carousel with an edge for each of its quick replies. -/
def market : Graph :=
  ofParts [⟨"menu", .quickReply ⟨none, "Market", none, none, [⟨"look", "Look around"⟩]⟩⟩,
      ⟨"offers", .carousel showcase⟩]
    [.plain "menu" "offers" none, .plain "offers" "thanks" none, .plain "offers" "thanks" none]

/-- The call between the quick replies takes no edge. -/
theorem quickReplies_in_order_market : market.Ordered ⟨"offers", .carousel showcase⟩ showcase
    ∧ showcase.quickReplies.map (fun p => p.2.id) = ["buy", "rent"]
    ∧ market.numbered.routeReply? "buy" ≠ market.numbered.routeReply? "rent"
    ∧ market.routeReply? "rent" = some (.carouselCard, .plain "offers" "thanks" none) := by
  have ordered : market.Ordered ⟨"offers", .carousel showcase⟩ showcase :=
    ⟨by decide, rfl, by decide, rfl, by decide, by decide, by decide⟩
  obtain ⟨led, apart, -⟩ := quickReplies_in_order ordered
  obtain ⟨e, he, rent⟩ := led 1 ("second", ⟨"rent", "Rent", .quickReply⟩) rfl
  cases he
  refine ⟨ordered, rfl, ?_, rent⟩
  have both : [market.numbered.routeReply? "buy", market.numbered.routeReply? "rent"].Nodup := apart
  simpa using both

end Graph

end Dialogue
