import Dialogue.Proofs.Delivery.Histories

/-!
# What claims a day

A day is claimed by the decision whether a text is the first of its day, which comes to one of four
things (`DayDecision.decided_of_runs`). The bookings that a text is offered to before claim none
(`EventScope.claimless_capture`).
-/

namespace Dialogue

/-- The requests that claim a day. -/
def Request.Claims : Request → Prop
  | .claimDay _ => True
  | _ => False

/-- No exchange of the program claims a day. -/
abbrev Claimless {α : Type} (p : Service α) : Prop := Asks (fun x => ¬ x.1.Claims) p

/-- Executing nodes claims no day. -/
def ChainScope.claimless (e : ChainScope) : NodeContract e where
  conversation _ := True
  exchange x := ¬ x.1.Claims
  failure _ := True
  advance _ _ _ := trivial
  set _ _ _ _ := trivial
  clear _ _ := trivial
  start _ _ _ _ := trivial
  ask x hx claims := by
    obtain ⟨q, r⟩ := x
    cases q <;> first | exact hx | exact claims
  save _ _ _ := id
  fail _ _ := trivial

/-! ## Deciding whether a text is the first of its day -/

/-- What deciding comes to: the day cannot be claimed; or it was claimed before; or it is claimed
now, and then the workflows to start are listed or cannot be. -/
inductive DayDecision.Decided (account : AccountId) (phone : String) (date : Date) :
    History → Except ChainError DayDecision → Prop
  | unclaimed (err : RecordError) : Decided account phone date
    [⟨.claimDay ⟨account, phone, date⟩, .error err⟩] (.error (.lookup (Text.report err.message)))
  | inquiry : Decided account phone date [⟨.claimDay ⟨account, phone, date⟩, .ok false⟩]
    (.ok .inquiry)
  | unlisted (err : WorkflowError) : Decided account phone date
    [⟨.claimDay ⟨account, phone, date⟩, .ok true⟩, ⟨.workflowsWithEntry account, .error err⟩]
    (.error (.lookup (Text.report err.message)))
  | first (workflows : List Workflow) : Decided account phone date
    [⟨.claimDay ⟨account, phone, date⟩, .ok true⟩, ⟨.workflowsWithEntry account, .ok workflows⟩]
    (.ok (.first workflows))

theorem DayDecision.decided_of_runs {account : AccountId} {phone : String} {date : Date}
    {h : History} {r : Except ChainError DayDecision}
    (run : (DayDecision.decide account phone date).Runs h r) :
    Decided account phone date h r := by
  obtain ⟨claimed, h, rfl, rest⟩ := run
  rcases claimed with err | _ | _
  · obtain ⟨rfl, rfl⟩ := rest
    exact .unclaimed err
  · obtain ⟨rfl, rfl⟩ := rest
    exact .inquiry
  · obtain ⟨found, h, rfl, rest⟩ := rest
    rcases found with err | workflows
    · obtain ⟨rfl, rfl⟩ := rest
      exact .unlisted err
    · obtain ⟨rfl, rfl⟩ := rest
      exact .first workflows

/-! ## Bookings that a text is offered to -/

namespace EventScope

open DeliveryWork

variable (e : EventScope)

theorem claimless_load (w : Workflow) : Claimless (e.load w) :=
  asks_persisting (.ask fun _ => id)

theorem claimless_finish (w : Workflow) (report : ChainReport) (c : Conversation) :
    Claimless (e.finish w report c) :=
  e.asks_finish w report (fun _ => id) (fun _ _ _ => id) fun _ => id

theorem claimless_runChain (w : Workflow) (c : Conversation) (start : ChainStart) :
    Claimless (e.runChain w c start) :=
  e.asks_runChain (e.chain w).claimless (fun _ => trivial) (fun _ => id) (fun _ _ _ => id) trivial
    start

theorem claimless_then_true {v : DeliveryWork Unit} (hv : Claimless v) :
    Claimless (do
      v
      pure true : DeliveryWork Bool) :=
  asks_bind hv fun _ => asks_pure

theorem claimless_booking {α : Type} (c : Conversation) (work : BookingWork α) :
    Claimless (booking c work) := by
  refine asks_bind (asks_lift fun h r run => ⟨?_, trivial⟩) fun _ => asks_pure
  obtain ⟨g, rfl, -⟩ := runs_ofBooking.1 run
  intro x hx
  obtain ⟨y, -, rfl⟩ := List.mem_map.1 hx
  exact id

theorem claimless_withLock {α : Type} {key : ConversationKey} {w : DeliveryWork α}
    (hw : Claimless w) : Claimless (withLock key w) :=
  asks_withLock (fun _ => id) (fun _ => id) hw

theorem claimless_anyTakes {offer : Workflow → DeliveryWork Bool}
    (offers : ∀ w, Claimless (offer w)) : ∀ workflows : List Workflow,
      Claimless (anyTakes offer workflows)
  | [] => asks_pure
  | w :: rest => by
    refine asks_bind (offers w) fun taken => ?_
    cases taken with
    | true => exact asks_pure
    | false => exact claimless_anyTakes offers rest

theorem claimless_captureIn (w : Workflow) (text : String) (c : Conversation)
    (p : BookingProgress) : Claimless (e.captureIn w text c p) := by
  refine asks_bind (claimless_booking c _) ?_
  rintro ⟨err | _ | step, d⟩
  · exact claimless_then_true (e.claimless_finish w _ d)
  · exact asks_pure
  · exact claimless_then_true (e.claimless_runChain w _ _)

theorem claimless_capture (text : String) (w : Workflow) : Claimless (e.capture text w) := by
  refine claimless_withLock (asks_bind (e.claimless_load w) fun found => ?_)
  cases found with
  | none => exact asks_pure
  | some c =>
    dsimp only
    split
    · exact e.claimless_captureIn w text c _
    · exact asks_pure

end EventScope

end Dialogue
