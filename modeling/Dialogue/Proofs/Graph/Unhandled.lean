import Dialogue.Proofs.Graph.Replies
import Mathlib.Data.List.Find

/-!
# Replies that no handle names

If no edge of the graph has the handle of a reply, none of the rules finds one by it, and the search
comes down to three plain steps (`plainRoute?`): the first edge of a message with buttons or rows;
the card, the title or the position of a carousel's button; the first edge of a carousel. A message
with buttons or rows that the last rule comes to has no edge, or the second rule would have taken
it; so the last rule only ever takes the edge of a carousel (`routeReply?_unhandled`).
-/

namespace Dialogue

namespace Carousel

variable (c : Carousel) (replyId : String)

/-- The first button with an identifier, and the card it stands on. -/
def button? : Option (String × ActionButton) := c.buttons.find? fun p => p.2.id == replyId

/-- The number of quick replies that stand before the first button with an identifier. -/
def quickRepliesBefore : Nat :=
  (c.buttons.takeWhile fun p => p.2.id != replyId).countP fun p => p.2.isQuickReply

end Carousel

namespace Graph

/-- Whether a node shows cards beside one another. -/
def isCarousel : NodeKind → Bool
  | .carousel _ => true
  | _ => false

variable (g : Graph) (replyId : String)

/-- The first edge of the first node of some kinds that offers a reply and has an edge. -/
def firstEdgeOf? (kinds : NodeKind → Bool) : Option Edge :=
  (g.nodes.find? fun n => kinds n.kind && n.kind.offers replyId
    && (g.firstOutgoing? n.id).isSome).bind fun n => g.firstOutgoing? n.id

/-- The edge of the first button of a carousel with an identifier: by the handle of its card, by a
handle that holds its title, or by its position among the quick replies. -/
def edgeOfButton? (n : Node) : Option Edge :=
  match n.kind with
  | .carousel c => (c.button? replyId).bind fun p =>
    (g.outgoingAt? n.id p.1).or
      ((g.edgeOfTitle? n p.2).or (g.edgeOfPosition? n c p.2 (c.quickRepliesBefore replyId)))
  | _ => none

/-- The edge of a reply, and the rule that finds it, if no handle is the reply's. -/
def plainRoute? : Option (RouteRule × Edge) :=
  ((g.firstEdgeOf? replyId isButtonMessage).map fun e => (.legacyButtonScan, e)).or
    (((g.nodes.findSome? (g.edgeOfButton? replyId)).map fun e => (.carouselCard, e)).or
      ((g.firstEdgeOf? replyId isCarousel).map fun e => (.anyInteractive, e)))

variable {g replyId} {n : Node} {e : Edge}

/-! ## The rules one after another -/

theorem routeReply?_eq (g : Graph) (replyId : String) :
    g.routeReply? replyId = ((g.edgeAt? replyId).map fun e => (.exactHandle, e)).or
      (((g.buttonScan? replyId).map fun e => (.legacyButtonScan, e)).or
        (((g.carouselScan? replyId).map fun e => (.carouselCard, e)).or
          ((g.interactiveScan? replyId).map fun e => (.anyInteractive, e)))) := by
  unfold routeReply? routeRules
  simp only [List.findSome?_cons, List.findSome?_nil, edgeBy?]
  cases g.edgeAt? replyId <;> cases g.buttonScan? replyId <;> cases g.carouselScan? replyId <;>
    cases g.interactiveScan? replyId <;> rfl

/-- The button that is pressed, and the number of quick replies that were passed before it. -/
theorem pressed?_eq (replyId : String) : ∀ (k : Nat) (buttons : List (String × ActionButton)),
    pressed? replyId k buttons = (buttons.find? fun p => p.2.id == replyId).map fun p =>
      (p.1, p.2,
        k + (buttons.takeWhile fun p => p.2.id != replyId).countP fun p => p.2.isQuickReply)
  | _, [] => rfl
  | k, (card, b) :: r => by
    unfold pressed?
    by_cases h : b.id = replyId
    · simp [h]
    · have rest := pressed?_eq replyId (if b.isQuickReply then k + 1 else k) r
      rw [if_neg h, rest, List.find?_cons_of_neg (by simpa using h),
        List.takeWhile_cons_of_pos (by simpa using h), List.countP_cons]
      refine congrArg (Option.map · _) (funext fun p => ?_)
      split
      · rw [Nat.add_assoc, Nat.add_comm 1]
      · rw [Nat.add_zero]

theorem findSome?_filter_eq {α β : Type} (p : α → Bool) (f : α → Option β) : ∀ l : List α,
    (l.filter p).findSome? f = (l.find? fun a => p a && (f a).isSome).bind f
  | [] => rfl
  | a :: l => by
    have rest := findSome?_filter_eq p f l
    cases hp : p a with
    | false => simp [hp, rest]
    | true => cases hf : f a <;> simp [hp, hf, rest]

theorem firstEdgeOf?_eq (g : Graph) (replyId : String) (kinds : NodeKind → Bool) :
    g.firstEdgeOf? replyId kinds
      = (g.nodes.filter fun n => kinds n.kind && n.kind.offers replyId).findSome? fun n =>
          g.firstOutgoing? n.id :=
  (findSome?_filter_eq ..).symm

/-! ## Without the reply's handle -/

/-- No edge has the reply's handle. -/
def Unhandled (g : Graph) (replyId : String) : Prop := ∀ e ∈ g.edges, e.handle ≠ some replyId

theorem unhandled_iff : g.Unhandled replyId ↔ g.edgeAt? replyId = none := by
  unfold Unhandled edgeAt?
  simp only [List.find?_eq_none, Edge.hasHandle, beq_iff_eq, ne_eq]

namespace Unhandled

variable (free : g.Unhandled replyId)

include free

theorem outgoingAt?_eq_none (id : NodeId) : g.outgoingAt? id replyId = none := by
  refine List.find?_eq_none.2 fun e he => ?_
  rw [Edge.hasHandle, beq_iff_eq]
  exact free e (mem_outgoing_iff.1 he).1

theorem edgeOfOffering?_eq (n : Node) : g.edgeOfOffering? n replyId = g.firstOutgoing? n.id := by
  rw [edgeOfOffering?, free.outgoingAt?_eq_none, Option.none_or]

/-- A scan of offering nodes takes the first one that has an edge. -/
theorem findSome?_edgeOfOffering? (kinds : NodeKind → Bool) :
    ((g.nodes.filter fun n => kinds n.kind && n.kind.offers replyId).findSome? fun n =>
      g.edgeOfOffering? n replyId) = g.firstEdgeOf? replyId kinds := by
  have first : (fun n => g.edgeOfOffering? n replyId) = fun n => g.firstOutgoing? n.id :=
    funext free.edgeOfOffering?_eq
  rw [first, firstEdgeOf?_eq]

theorem buttonScan?_eq : g.buttonScan? replyId = g.firstEdgeOf? replyId isButtonMessage :=
  free.findSome?_edgeOfOffering? isButtonMessage

theorem interactiveScan?_eq :
    g.interactiveScan? replyId = g.firstEdgeOf? replyId NodeKind.isInteractive :=
  free.findSome?_edgeOfOffering? NodeKind.isInteractive

theorem edgeOfCarousel?_eq (n : Node) :
    g.edgeOfCarousel? n replyId = g.edgeOfButton? replyId n := by
  obtain ⟨id, kind⟩ := n
  cases kind with
  | carousel c =>
    unfold edgeOfCarousel? edgeOfButton? Carousel.button?
    dsimp only
    rw [pressed?_eq]
    cases found : c.buttons.find? fun p => p.2.id == replyId with
    | none => rfl
    | some p =>
      have same : p.2.id = replyId := by simpa using List.find?_some found
      simp only [Option.map_some, Option.bind_some, edgeOfCard?, same, free.outgoingAt?_eq_none,
        Option.none_or, Nat.zero_add, Carousel.quickRepliesBefore]
  | _ => rfl

theorem carouselScan?_eq :
    g.carouselScan? replyId = g.nodes.findSome? (g.edgeOfButton? replyId) := by
  unfold carouselScan?
  exact congrArg (g.nodes.findSome? ·) (funext free.edgeOfCarousel?_eq)

end Unhandled

theorem isInteractive_eq (k : NodeKind) :
    k.isInteractive = (isButtonMessage k || isCarousel k) := by
  cases k <;> rfl

/-- Where no message with buttons or rows has an edge for the reply, only carousels are left. -/
theorem firstEdgeOf?_isInteractive (h : g.firstEdgeOf? replyId isButtonMessage = none) :
    g.firstEdgeOf? replyId NodeKind.isInteractive = g.firstEdgeOf? replyId isCarousel := by
  have bare : ∀ n ∈ g.nodes, isButtonMessage n.kind = true → n.kind.offers replyId = true →
      g.firstOutgoing? n.id = none := by
    intro n hn message offers
    rw [firstEdgeOf?_eq] at h
    exact List.findSome?_eq_none_iff.1 h n (List.mem_filter.2 ⟨hn, by simp [message, offers]⟩)
  refine congrArg (Option.bind · _) (List.find?_congr fun n hn => ?_)
  rw [isInteractive_eq]
  cases message : isButtonMessage n.kind with
  | false => rfl
  | true =>
    cases offers : n.kind.offers replyId with
    | false => simp
    | true => simp [bare n hn message offers]

theorem Unhandled.routeReply?_eq_plainRoute? (free : g.Unhandled replyId) :
    g.routeReply? replyId = g.plainRoute? replyId := by
  rw [routeReply?_eq, plainRoute?, unhandled_iff.1 free, free.buttonScan?_eq,
    free.carouselScan?_eq, free.interactiveScan?_eq, Option.map_none, Option.none_or]
  cases h : g.firstEdgeOf? replyId isButtonMessage with
  | some e => rfl
  | none => rw [firstEdgeOf?_isInteractive h]

/-- Two cards; a call stands between the quick replies. -/
def showcase : Carousel :=
  ⟨"Pick one",
    [⟨"first", "", none, [⟨"buy", "Buy", .quickReply⟩, ⟨"call", "Call us", .call "+911"⟩]⟩,
    ⟨"second", "", none, [⟨"rent", "Rent", .quickReply⟩]⟩]⟩

end Graph

end Dialogue
