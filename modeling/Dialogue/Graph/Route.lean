import Dialogue.Graph.Basic
import Dialogue.Text.Blank

/-!
# Where replies and outcomes lead

A reply is matched to an edge by four rules, tried in order: an edge whose handle is the reply's
identifier; a message with buttons or rows that offers it; a carousel that offers it, by its card,
its title or its position; any interactive node that offers it. An outcome of a node leads along
the edge of that handle.
-/

namespace Dialogue

/-- The rule that found the edge of a reply. -/
inductive RouteRule where
  | exactHandle
  | legacyButtonScan
  | carouselCard
  | anyInteractive
  deriving DecidableEq, Repr

/-- The name of a rule. -/
def RouteRule.name : RouteRule → String
  | .exactHandle => "exact_handle"
  | .legacyButtonScan => "legacy_button_scan"
  | .carouselCard => "carousel_card"
  | .anyInteractive => "any_interactive"

namespace Graph

variable (g : Graph)

/-- The edge of a node that offers a reply: the one of its handle, else the first. -/
def edgeOfOffering? (n : Node) (replyId : String) : Option Edge :=
  (g.outgoingAt? n.id replyId).or (g.firstOutgoing? n.id)

/-- Whether a node is a message with buttons or rows. -/
def isButtonMessage : NodeKind → Bool
  | .quickReply _ | .list _ | .buttons _ => true
  | _ => false

/-- The edge of the first message with buttons or rows that offers a reply and has an edge. -/
def buttonScan? (replyId : String) : Option Edge :=
  (g.nodes.filter fun n => isButtonMessage n.kind && n.kind.offers replyId).findSome? fun n =>
    g.edgeOfOffering? n replyId

/-- The first button of a carousel with an identifier, its card, and how many quick replies stand
before it. -/
def pressed? (replyId : String) : Nat → List (String × ActionButton) →
    Option (String × ActionButton × Nat)
  | _, [] => none
  | k, (card, b) :: r =>
    if b.id = replyId then some (card, b, k)
    else pressed? replyId (if b.isQuickReply then k + 1 else k) r

/-- The edge of a carousel button by the button's or the card's handle. -/
def edgeOfCard? (n : Node) (card : String) (b : ActionButton) : Option Edge :=
  (g.outgoingAt? n.id b.id).or (g.outgoingAt? n.id card)

/-- The edge of a carousel button by a handle that holds the button's title. -/
def edgeOfTitle? (n : Node) (b : ActionButton) : Option Edge :=
  if b.title.isEmpty then none
  else (g.outgoing n.id).find? fun e => match e.handle with
    | some h => Text.contains b.title.toList h.toList
    | none => false

/-- The edge of a carousel's quick reply by its position, where there is an edge for each. -/
def edgeOfPosition? (n : Node) (c : Carousel) (b : ActionButton) (k : Nat) : Option Edge :=
  if b.isQuickReply && (g.outgoing n.id).length == c.quickReplyCount then (g.outgoing n.id)[k]?
  else none

/-- The edge of a reply that a carousel offers. -/
def edgeOfCarousel? (n : Node) (replyId : String) : Option Edge :=
  match n.kind with
  | .carousel c =>
    match pressed? replyId 0 c.buttons with
    | some (card, b, k) =>
      (g.edgeOfCard? n card b).or ((g.edgeOfTitle? n b).or (g.edgeOfPosition? n c b k))
    | none => none
  | _ => none

/-- The edge of the first carousel that finds one for a reply. -/
def carouselScan? (replyId : String) : Option Edge :=
  g.nodes.findSome? fun n => g.edgeOfCarousel? n replyId

/-- The edge of the first interactive node that offers a reply and has an edge. -/
def interactiveScan? (replyId : String) : Option Edge :=
  (g.nodes.filter fun n => n.isInteractive && n.kind.offers replyId).findSome? fun n =>
    g.edgeOfOffering? n replyId

/-- The edge that a rule finds for a reply. -/
def edgeBy? (replyId : String) : RouteRule → Option Edge
  | .exactHandle => g.edgeAt? replyId
  | .legacyButtonScan => g.buttonScan? replyId
  | .carouselCard => g.carouselScan? replyId
  | .anyInteractive => g.interactiveScan? replyId

/-- The rules in the order they are tried. -/
def routeRules : List RouteRule :=
  [.exactHandle, .legacyButtonScan, .carouselCard, .anyInteractive]

/-- The edge of a reply and the rule that found it. -/
def routeReply? (replyId : String) : Option (RouteRule × Edge) :=
  routeRules.findSome? fun rule => (g.edgeBy? replyId rule).map fun e => (rule, e)

/-- The edge of an outcome of a node. -/
def outcome? (id : NodeId) (handle : String) : Option Edge := g.outgoingAt? id handle

/-- The edge of an outcome of a node, else its first edge from the default handle. -/
def primaryOutcome? (id : NodeId) (handle : String) : Option Edge :=
  (g.outcome? id handle).or ((g.outgoing id).find? Edge.isUnqualified)

end Graph

end Dialogue
