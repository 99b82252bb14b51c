import Dialogue.Proofs.Booking.Writes
import Dialogue.Proofs.Delivery.Asks

/-!
# Histories of a delivery

How the histories of work on a delivery split: at a bind where the first part ends
(`DeliveryWork.runs_bind`), at the lock and the unlock (`DeliveryWork.runs_withLock`), and into the
history of a booking and what is done with its result (`EventScope.routeInBooking_eq`).
-/

namespace Dialogue

/-- What collaborators were asked and what they answered. -/
abbrev History : Type := List (Exchange Request.Answer)

/-- An exchange with the store of appointments as one of a service. -/
def BookingExchange.inService (x : BookingExchange) : Exchange Request.Answer :=
  ⟨.booking x.1, x.2⟩

theorem runs_ofBooking {α : Type}
    {p : Program BookingQuery (fun q => Except BookingError q.Answer) α} {h : History} {a : α} :
    (Service.ofBooking p).Runs h a ↔ ∃ g, h = g.map BookingExchange.inService ∧ p.Runs g a :=
  Program.runs_embed (f := Request.booking) (fun _ r => r) (fun _ _ => rfl) fun _ _ => rfl

theorem inService_injective {x y : BookingExchange} (h : x.inService = y.inService) : x = y := by
  obtain ⟨q, r⟩ := x
  obtain ⟨q', r'⟩ := y
  cases h
  rfl

namespace DeliveryWork

variable {α β : Type} {h : History}

theorem runs_bind {w : DeliveryWork α} {f : α → DeliveryWork β} {r : Except DeliveryError β}
    (run : Program.Runs (w >>= f : DeliveryWork β) h r) :
    (∃ h₁ a h₂, h = h₁ ++ h₂ ∧ Program.Runs w h₁ (.ok a) ∧ Program.Runs (f a) h₂ r)
      ∨ ∃ err, Program.Runs w h (.error err) ∧ r = .error err := by
  rw [bind_eq] at run
  obtain ⟨h₁, a, h₂, rfl, run₁, run₂⟩ := Program.runs_bind.1 run
  cases a with
  | ok a => exact .inl ⟨h₁, a, h₂, rfl, run₁, run₂⟩
  | error err =>
    obtain ⟨rfl, rfl⟩ := run₂
    exact .inr ⟨err, by rwa [List.append_nil], rfl⟩

theorem runs_lift {p : Service α} {r : Except DeliveryError α}
    (run : Program.Runs (ExceptT.lift p : DeliveryWork α) h r) : ∃ a, r = .ok a ∧ p.Runs h a := by
  obtain ⟨h₁, a, h₂, rfl, run₁, rfl, rfl⟩ := Program.runs_bind.1 run
  exact ⟨a, rfl, by rwa [List.append_nil]⟩

theorem runs_persisting {ε : Type} {p : Service (Except ε α)} {text : ε → String}
    {r : Except DeliveryError α} (run : Program.Runs (persisting p text) h r) :
    ∃ a, p.Runs h a ∧ r = a.mapError fun err => .persistence (text err) := by
  obtain ⟨h₁, a, h₂, rfl, run₁, rfl, rfl⟩ := Program.runs_bind.1 run
  exact ⟨a, by rwa [List.append_nil], rfl⟩

theorem runs_withLock {key : ConversationKey} {h : History} {r : Except DeliveryError α}
    (run : Program.Runs (withLock key w) h r) :
    ∃ a b g, h = ⟨.lock key, a⟩ :: (g ++ [⟨.unlock key, b⟩]) ∧ Program.Runs w g r := by
  obtain ⟨g₁, a, h, rfl, lock, run⟩ := Program.runs_bind.1 run
  obtain ⟨g, s, k, rfl, run, unlock⟩ := Program.runs_bind.1 run
  obtain ⟨b, k', rfl, rfl, rfl⟩ := unlock
  rw [Program.runs_request.1 lock]
  exact ⟨a, b, g, rfl, run⟩

end DeliveryWork

namespace EventScope

open DeliveryWork

variable {e : EventScope}

theorem runs_booking {α : Type} {c : Conversation} {work : BookingWork α} {h : History}
    {r : Except DeliveryError (Except BookingError α × Conversation)}
    (run : Program.Runs (booking c work) h r) :
    ∃ s, r = .ok (s.1, { c with context := s.2 })
      ∧ (Service.ofBooking (work c.context)).Runs h s := by
  unfold booking at run
  rcases runs_bind run with ⟨h₁, a, h₂, rfl, run₁, rfl, rfl⟩ | ⟨err, run₁, -⟩
  · obtain ⟨_, ⟨⟩, run₁⟩ := runs_lift run₁
    exact ⟨a, rfl, by rwa [List.append_nil]⟩
  · obtain ⟨_, ⟨⟩, -⟩ := runs_lift run₁

/-- Work that takes an event is done once the chain or the log is. -/
theorem runs_then_true {v : DeliveryWork Unit} {h : History} {r : Except DeliveryError Bool}
    (run : Program.Runs (do
      v
      pure true : DeliveryWork Bool) h r) : ∃ s, Program.Runs v h s ∧ r = s.map fun _ => true := by
  rcases runs_bind run with ⟨h₁, a, h₂, rfl, run₁, rfl, rfl⟩ | ⟨err, run₁, rfl⟩
  · exact ⟨.ok a, by rwa [List.append_nil], rfl⟩
  · exact ⟨.error err, run₁, rfl⟩

/-- What is done with the result of offering a reply. -/
def afterReply (e : EventScope) (w : Workflow) (replyId : String) (p : BookingProgress) :
    Except BookingError ReplyHandling × Conversation → DeliveryWork Bool
  | (.ok (.handled step), c) => do
    e.runChain w (e.arrive c) (.flowStep p.nodeId step)
    pure true
  | (.ok .rejected, c) => do
    save c
    e.routeByGraph w replyId c
  | (.ok .notForFlow, c) => e.routeByGraph w replyId c
  | (.error err, c) => do
    e.finishBooking w c p.nodeId err
    pure true

theorem routeInBooking_eq (e : EventScope) (w : Workflow) (replyId : String) (c : Conversation)
    (p : BookingProgress) : e.routeInBooking w replyId c p
      = booking c ((e.chain w).visit.takeReply replyId) >>= e.afterReply w replyId p := by
  refine congrArg (bind (booking c ((e.chain w).visit.takeReply replyId))) (funext ?_)
  rintro ⟨_ | _ | _ | step, d⟩ <;> rfl

theorem loadOrNew_bind {α : Type} (w : Workflow) (f : Conversation → DeliveryWork α) :
    e.loadOrNew w >>= f = e.load w >>= fun found =>
      f (found.getD (.new w.id e.facts.phone e.now)) := by
  unfold loadOrNew
  rw [bind_eq, bind_eq, bind_eq, Program.bind_assoc]
  refine congrArg (Program.bind (e.load w)) (funext ?_)
  rintro (err | found) <;> rfl

end EventScope

end Dialogue
