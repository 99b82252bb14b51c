import Mathlib.Data.List.Count
import Dialogue.Graph.Lint
import Dialogue.Graph.Route

/-!
# Handles with more than one edge

The lint goes through the edges in order and reports a handle whenever it has met it before, so of
the edges that leave one handle of an identifier it reports all but one (`count_duplicateHandle`).
Where it reports none, at most one edge leaves each handle, and a look-up that takes the first one
takes the same one in whatever order the edges are stored (`outcomes_unordered`).
-/

namespace Dialogue

/-- Whether the edge leaves that handle of an identifier. -/
def Edge.isAt (id : NodeId) (handle : String) (e : Edge) : Bool :=
  e.source == id && e.hasHandle handle

theorem Edge.isAt_iff {id : NodeId} {handle : String} {e : Edge} :
    e.isAt id handle = true ↔ e.source = id ∧ e.handle = some handle := by
  simp [isAt, hasHandle]

namespace Graph

variable {id : NodeId} {handle : String}

/-! ## What the lint counts -/

theorem handleIssue_of_handle {e : Edge} (own : e.handle = some handle) (earlier : List Edge) :
    handleIssue earlier e = if earlier.any (Edge.isAt e.source handle) then
      [.duplicateHandle e.source handle] else [] := by
  unfold handleIssue
  rw [own]
  rfl

/-- An edge is reported for its own handle, if an earlier one leaves it. -/
theorem count_handleIssue (earlier : List Edge) (e : Edge) :
    (handleIssue earlier e).count (.duplicateHandle id handle)
      = if e.isAt id handle && earlier.any (Edge.isAt id handle) then 1 else 0 := by
  by_cases here : e.isAt id handle = true
  · obtain ⟨rfl, own⟩ := Edge.isAt_iff.1 here
    rw [here, Bool.true_and, handleIssue_of_handle own]
    split
    · exact List.count_singleton_self
    · rfl
  · rw [Bool.eq_false_iff.2 here, Bool.false_and, if_neg Bool.false_ne_true, List.count_eq_zero]
    intro reported
    cases own : e.handle with
    | none =>
      rw [handleIssue, own] at reported
      cases reported
    | some other =>
      rw [handleIssue_of_handle own, List.mem_ite_nil_right, List.mem_singleton] at reported
      obtain ⟨rfl, rfl⟩ := GraphIssue.duplicateHandle.inj reported.2
      exact here (Edge.isAt_iff.2 ⟨rfl, own⟩)

/-- Of the edges at one handle each is reported that is behind another. -/
theorem count_edgeIssues (g : Graph) : ∀ edges earlier : List Edge,
    (g.edgeIssues earlier edges).count (.duplicateHandle id handle)
      = edges.countP (Edge.isAt id handle) - if earlier.any (Edge.isAt id handle) then 0 else 1
  | [], _ => (Nat.zero_sub _).symm
  | e :: r, earlier => by
    have source : (g.sourceIssue e).count (.duplicateHandle id handle) = 0 := by
      unfold sourceIssue
      split <;> simp
    have target : (g.targetIssue e).count (.duplicateHandle id handle) = 0 := by
      unfold targetIssue
      split <;> simp
    rw [edgeIssues, List.count_append, List.count_append, List.count_append, source, target,
      count_handleIssue, count_edgeIssues g r, List.countP_cons, List.any_append, List.any_cons,
      List.any_nil, Bool.or_false]
    cases e.isAt id handle with
    | false => simp
    | true =>
      cases earlier.any (Edge.isAt id handle) with
      | false => simp
      | true => simp [Nat.add_comm]

theorem count_duplicateHandle (g : Graph) (id : NodeId) (handle : String) :
    g.issues.count (.duplicateHandle id handle) = g.edges.countP (Edge.isAt id handle) - 1 := by
  have nodes : g.unsupportedIssues.count (.duplicateHandle id handle) = 0 := by
    rw [List.count_eq_zero]
    simp [unsupportedIssues]
  have loops : (g.loops.map GraphIssue.chainCycle).count (.duplicateHandle id handle) = 0 := by
    rw [List.count_eq_zero]
    simp
  rw [issues, List.count_append, List.count_append, nodes, loops, count_edgeIssues]
  simp

example : (ofParts [] (.replicate 3 (.plain "ask" "end" (some "yes")))).issues.count
    (.duplicateHandle "ask" "yes") = 2 := by decide

/-! ## What a look-up finds -/

/-- Where at most one item passes, the first that does is the same in any order. -/
theorem find?_eq_of_perm {α : Type} {p : α → Bool} {l l' : List α} (perm : l.Perm l')
    (once : l'.countP p ≤ 1) : l.find? p = l'.find? p := by
  have passing := perm.filter p
  rw [List.countP_eq_length_filter] at once
  rw [← List.head?_filter, ← List.head?_filter]
  match l'.filter p, once, passing with
  | [], _, passing => rw [List.perm_nil.1 passing]
  | [a], _, passing => rw [List.perm_singleton.1 passing]

theorem outgoingAt?_eq (g : Graph) (id : NodeId) (handle : String) :
    g.outgoingAt? id handle = g.edges.find? (Edge.isAt id handle) := by
  rw [outgoingAt?, outgoing, List.find?_filter]
  simp only [Bool.decide_and, Bool.decide_eq_true]
  rfl

/-- Of the edges that leave one handle the lint reports all but one. Where it reports none, the edge
that the outcome leads along does not depend on the order of the edges. -/
theorem outcomes_unordered (g : Graph) (id : NodeId) (handle : String) :
    g.issues.count (.duplicateHandle id handle)
      = (g.edges.countP fun e => e.source == id && e.hasHandle handle) - 1
    ∧ (.duplicateHandle id handle ∉ g.issues → ∀ edges, edges.Perm g.edges →
      ({ g with edges } : Graph).outgoingAt? id handle = g.outgoingAt? id handle
        ∧ ({ g with edges } : Graph).outcome? id handle = g.outcome? id handle) := by
  have reported := count_duplicateHandle g id handle
  refine ⟨reported, fun unreported edges perm => ?_⟩
  have once : g.edges.countP (Edge.isAt id handle) ≤ 1 := by
    rw [List.count_eq_zero.2 unreported] at reported
    omega
  have same : ({ g with edges } : Graph).outgoingAt? id handle = g.outgoingAt? id handle := by
    rw [outgoingAt?_eq, outgoingAt?_eq]
    exact find?_eq_of_perm perm once
  exact ⟨same, same⟩

/-- A booking that leads on by its outcomes, and a call whose edges share the handles' names. -/
def outcomeEdges : List Edge :=
  [.plain "book" "thanks" (some "booked"), .plain "book" "sorry" (some "no_slots"),
    .plain "call" "thanks" (some "booked"), .plain "book" "menu" none, .plain "book" "end" none]

theorem outcomes_unordered_booking : outcomeEdges.reverse.Perm (ofParts [] outcomeEdges).edges
    ∧ .duplicateHandle "book" "booked" ∉ (ofParts [] outcomeEdges).issues
    ∧ (ofParts [] outcomeEdges.reverse).outcome? "book" "booked"
      = some (.plain "book" "thanks" (some "booked")) := by
  have perm : outcomeEdges.reverse.Perm (ofParts [] outcomeEdges).edges :=
    List.reverse_perm outcomeEdges
  have unreported : .duplicateHandle "book" "booked" ∉ (ofParts [] outcomeEdges).issues := by
    decide
  obtain ⟨-, unordered⟩ := outcomes_unordered (ofParts [] outcomeEdges) "book" "booked"
  exact ⟨perm, unreported, (unordered unreported _ perm).2⟩

end Graph

end Dialogue
