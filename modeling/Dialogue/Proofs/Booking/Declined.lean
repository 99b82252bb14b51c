import Dialogue.Proofs.Booking.Served

/-!
# Selections that come to nothing

A selection is declined at many places, some of them behind questions to the store. Wherever that
is, nothing was booked, cancelled or moved before, and the variables of the context are as they
were: so a rejected reply ends what the context is in the middle of and does nothing else
(`Visit.rejected_of_runs`), and a reply or a text that is not for the flow does nothing at all
(`Visit.notForFlow_of_runs`, `Visit.not_taken_of_runs`).

`Spares kind w` says so of all runs of work that end with a result of a kind, part by part; the
parts behind which no such result is left do as they like (`Never`).
-/

namespace Dialogue

/-- A booking was made, cancelled or moved. -/
def BookingExchange.Alters : BookingExchange → Prop
  | ⟨.create _, .ok (.created _)⟩ => True
  | ⟨.cancel _ _, .ok true⟩ => True
  | ⟨.reschedule _ _ _ _, .ok (some (.created _))⟩ => True
  | _ => False

namespace BookingTables

variable {t t' : BookingTables}

/-- Tables that tell of no change have not changed. -/
theorem Replies.eq_of_not_alters {x : BookingExchange} (h : t.Replies x t') (hx : ¬ x.Alters) :
    t' = t := by
  obtain ⟨q, r⟩ := x
  rcases h with ⟨now, hr, rfl⟩ | ⟨err, -, rfl⟩
  · obtain rfl : r = .ok (answer now q t).1 := hr
    cases q with
    | create request =>
      revert hx
      dsimp only [answer, create]
      split
      · exact fun hx => absurd trivial hx
      · exact fun _ => rfl
    | cancel account id =>
      revert hx
      dsimp only [answer, cancel]
      split
      · exact fun hx => absurd trivial hx
      · exact fun _ => rfl
    | reschedule account id slot date =>
      revert hx
      dsimp only [answer, reschedule]
      split
      · exact fun _ => rfl
      · split
        · exact fun hx => absurd trivial hx
        · exact fun _ => rfl
    | _ => rfl
  · rfl

theorem Serves.eq_of_not_alters : ∀ {t : BookingTables} {h : List BookingExchange},
    t.Serves h t' → (∀ x ∈ h, ¬ x.Alters) → t' = t
  | _, [], served, _ => served
  | _, x :: _, ⟨u, hx, served⟩, spared => by
    obtain ⟨first, rest⟩ := List.forall_mem_cons.1 spared
    obtain rfl := hx.eq_of_not_alters first
    exact served.eq_of_not_alters rest

end BookingTables

/-! ## Work that spares the store and the variables -/

/-- Where work ends with a result of a kind, no booking was made, cancelled or moved, and the
variables are as they were. -/
def Spares {α : Type} (kind : α → Prop) (w : BookingWork α) : Prop :=
  ∀ c h a c', (w c).Runs h (.ok a, c') → kind a →
    (∀ x ∈ h, ¬ BookingExchange.Alters x) ∧ c'.vars = c.vars

/-- Work ends with no result of a kind. -/
def Never {α : Type} (kind : α → Prop) (w : BookingWork α) : Prop :=
  ∀ c h a c', (w c).Runs h (.ok a, c') → ¬ kind a

section Rules

variable {α β : Type} {kind : β → Prop} {mid : α → Prop} {w : BookingWork α}
  {f : α → BookingWork β}

theorem never_pure {b : β} (h : ¬ kind b) : Never kind (pure b : BookingWork β) := by
  rintro c g a c' ⟨-, hr⟩
  cases hr
  exact h

/-- Only the last part has a say. -/
theorem Never.after (hf : ∀ a, Never kind (f a)) : Never kind (w >>= f) := by
  intro c h b c' run
  obtain ⟨h₁, a, d, h₂, rfl, -, run⟩ := Work.runs_bind_ok.1 run
  exact hf a d h₂ b c' run

theorem spares_pure {b : β} : Spares kind (pure b : BookingWork β) := by
  rintro c h a c' ⟨rfl, hr⟩ -
  cases hr
  exact ⟨List.forall_mem_nil _, rfl⟩

theorem spares_modify {g : Context → Context} {kind : PUnit → Prop}
    (hg : ∀ c, (g c).vars = c.vars) : Spares kind (modify g : BookingWork PUnit) := by
  rintro c h a c' ⟨rfl, hr⟩ -
  cases hr
  exact ⟨List.forall_mem_nil _, hg c⟩

theorem spares_ask {q : BookingQuery} {kind : q.Answer → Prop}
    (hq : ∀ a, kind a → ¬ BookingExchange.Alters ⟨q, .ok a⟩) :
    Spares kind (BookingWork.ask q) := by
  rintro c _ a c' ⟨r, h, rfl, rfl, hr⟩ ha
  cases hr
  exact ⟨List.forall_mem_singleton.2 (hq a ha), rfl⟩

/-- A question that asks for no change. -/
theorem spares_read {q : BookingQuery} {kind : q.Answer → Prop} (hq : q.changes = false) :
    Spares kind (BookingWork.ask q) := by
  refine spares_ask fun a _ alters => ?_
  cases q with
  | create | cancel | reschedule => cases hq
  | _ => exact alters

theorem Spares.bind (hw : Spares mid w) (hf : ∀ a, mid a → Spares kind (f a))
    (never : ∀ a, ¬ mid a → Never kind (f a)) : Spares kind (w >>= f) := by
  intro c h b c' run hb
  obtain ⟨h₁, a, d, h₂, rfl, first, second⟩ := Work.runs_bind_ok.1 run
  by_cases ha : mid a
  · obtain ⟨spared, kept⟩ := hw c h₁ a d first ha
    obtain ⟨spared', kept'⟩ := hf a ha d h₂ b c' second hb
    refine ⟨fun x hx => ?_, kept'.trans kept⟩
    rcases List.mem_append.1 hx with hx | hx
    · exact spared x hx
    · exact spared' x hx
  · exact absurd hb (never a ha d h₂ b c' second)

/-- Behind a part that spares whatever it ends with, only the last part has to be looked at. -/
theorem Spares.andThen (hw : Spares (fun _ => True) w) (hf : ∀ a, Spares kind (f a)) :
    Spares kind (w >>= f) :=
  hw.bind (fun a _ => hf a) fun _ ha => absurd trivial ha

theorem Never.spares {w : BookingWork β} (h : Never kind w) : Spares kind w :=
  fun c g a c' run ha => absurd ha (h c g a c' run)

end Rules

namespace Visit

open BookingWork

variable (v : Visit)

/-! ## Steps -/

section Steps

variable {α : Type} {kind : α → Prop}

theorem spares_clear {kind : PUnit → Prop} : Spares kind BookingWork.clear :=
  spares_modify fun _ => rfl

/-- An end with a step is none without. -/
theorem never_some {s : FlowStep} :
    Never (fun o => o = none) (pure (some s) : BookingWork (Option FlowStep)) :=
  never_pure nofun

theorem spares_ownBooking? (id : BookingId) : Spares (fun _ => True) (v.ownBooking? id) := by
  unfold ownBooking?
  exact (spares_read rfl).andThen fun _ => spares_pure

variable (p : BookingProgress)

theorem spares_selectDepartment (c : BookAppointment) (id : DepartmentId) :
    Spares (fun o => o = none) (v.selectDepartment p c id) := by
  unfold selectDepartment
  refine (spares_read rfl).andThen fun department => ?_
  split
  · refine (spares_read rfl).andThen fun staff => Never.spares ?_
    split
    · exact .after fun _ => never_some
    · exact .after fun _ => never_some
  · exact spares_pure

theorem spares_selectStaff (c : BookAppointment) (id : StaffId) :
    Spares (fun o => o = none) (v.selectStaff p c id) := by
  unfold selectStaff
  refine (spares_read rfl).andThen fun staff => ?_
  split
  · split
    · exact spares_pure
    · refine Never.spares (.after fun times => ?_)
      split
      · exact .after fun _ => never_some
      · exact .after fun _ => never_some
  · exact spares_pure

/-- A time that fits is declined no more. -/
theorem spares_selectSlot (c : BookAppointment) (id : SlotId) (date : Date) :
    Spares (fun o => o = none) (v.selectSlot p c id date) := by
  unfold selectSlot
  refine (spares_read rfl).andThen fun slot => ?_
  split
  · split
    · refine Never.spares (.after fun room => ?_)
      split
      · dsimp only
        split
        · exact .after fun _ => never_some
        · exact .after fun _ => .after fun _ => never_some
      · exact .after fun _ => never_some
    · exact spares_pure
  · exact spares_pure

/-- A booking that was cancelled is told of. -/
theorem spares_cancel (c : CheckBookings) (id : BookingId) :
    Spares (fun o => o = none) (v.cancel c id) := by
  unfold cancel
  refine (v.spares_ownBooking? id).andThen fun booking => ?_
  split
  · rename_i b
    have gone : Spares (fun done => done = false) (ask (.cancel v.accountId b.id)) := by
      refine spares_ask (q := .cancel v.accountId b.id) ?_
      rintro _ rfl
      exact False.elim
    refine gone.bind ?_ ?_
    · rintro _ rfl
      exact spares_pure
    · intro done cancelled
      rw [Bool.not_eq_false] at cancelled
      rw [if_pos cancelled]
      exact .after fun _ => .after fun _ => never_some
  · exact spares_pure

theorem spares_startReschedule (c : CheckBookings) (id : BookingId) :
    Spares (fun o => o = none) (v.startReschedule p c id) := by
  unfold startReschedule
  refine (v.spares_ownBooking? id).andThen fun booking => ?_
  split
  · refine Never.spares (.after fun times => ?_)
    dsimp only
    split
    · exact .after fun _ => never_some
    · exact .after fun _ => never_some
  · exact spares_pure

/-- A booking that is gone by the time it would be moved leaves the reply declined, with the flow
already ended. -/
theorem spares_selectNewSlot (c : CheckBookings) (id : SlotId) (date : Date) :
    Spares (fun o => o = none) (v.selectNewSlot p c id date) := by
  unfold selectNewSlot
  split
  · refine (spares_read rfl).andThen fun slot => ?_
    split
    · split
      · refine (v.spares_ownBooking? _).andThen fun booking => ?_
        split
        · rename_i bookingId _ _ slot _ _ _
          have gone : Spares (fun placement => placement = none)
              (ask (.reschedule v.accountId bookingId slot date)) := by
            refine spares_ask (q := .reschedule v.accountId bookingId slot date) ?_
            rintro _ rfl
            exact False.elim
          refine gone.bind ?_ ?_
          · rintro _ rfl
            exact spares_clear.andThen fun _ => spares_pure
          · intro placement placed
            refine .after fun _ => ?_
            split
            · exact absurd rfl placed
            · exact never_some
            · exact .after fun _ => never_some
        · exact spares_pure
      · exact spares_pure
    · exact spares_pure
  · exact spares_pure

theorem spares_select (flow : BookingFlow) (step : BookingStep) (s : Selection) :
    Spares (fun o => o = none) (v.select p flow step s) := by
  unfold select
  split
  · exact v.spares_selectDepartment p _ _
  · exact v.spares_selectStaff p _ _
  · exact v.spares_selectSlot p _ _ _
  · split
    · exact v.spares_cancel _ _
    · exact spares_pure
  · split
    · exact v.spares_startReschedule p _ _
    · exact spares_pure
  · exact v.spares_selectNewSlot p _ _ _
  · exact spares_pure

end Steps

/-! ## Replies and texts -/

variable {v} {c c' : Context} {h : List BookingExchange}

theorem takeSelection_of_runs {p : BookingProgress} {s : Selection} {r : ReplyHandling}
    (run : (v.takeSelection p s c).Runs h (.ok r, c')) :
    (∃ step, r = .handled step)
      ∨ r = .rejected ∧ (∀ x ∈ h, ¬ x.Alters) ∧ c' = c.clearProgress := by
  obtain ⟨⟨o, d⟩, selected, ends⟩ := v.runs_takeSelection run
  cases o with
  | error err => cases ends
  | ok o =>
    cases o with
    | some step =>
      cases ends
      exact .inl ⟨step, rfl⟩
    | none =>
      cases ends
      obtain ⟨spared, kept⟩ := v.spares_select p p.flow p.step s c h none d selected rfl
      refine .inr ⟨rfl, spared, ?_⟩
      unfold Context.clearProgress
      rw [kept]

/-- A rejected reply changed nothing in the store and ended what the context was in the middle
of. -/
theorem rejected_of_runs {replyId : String}
    (run : (v.takeReply replyId c).Runs h (.ok .rejected, c')) :
    (∀ x ∈ h, ¬ x.Alters) ∧ c' = c.clearProgress := by
  rw [takeReply_apply] at run
  split at run
  · rcases takeSelection_of_runs run with ⟨step, hr⟩ | ⟨-, spared⟩
    · cases hr
    · exact spared
  · obtain ⟨-, hr⟩ := run
    cases hr

/-- A reply that is not for the flow asks nothing and changes nothing. -/
theorem notForFlow_of_runs {replyId : String}
    (run : (v.takeReply replyId c).Runs h (.ok .notForFlow, c')) : h = [] ∧ c' = c := by
  rw [takeReply_apply] at run
  split at run
  · rcases takeSelection_of_runs run with ⟨step, hr⟩ | ⟨hr, -⟩ <;> cases hr
  · obtain ⟨rfl, hr⟩ := run
    cases hr
    exact ⟨rfl, rfl⟩

/-- A text that is not taken asks nothing and changes nothing. -/
theorem not_taken_of_runs {text : String}
    (run : (v.takeText text c).Runs h (.ok none, c')) : h = [] ∧ c' = c := by
  have idle (run : Program.Runs (.done (.ok none, c)) h
      ((.ok none, c') : Except BookingError (Option FlowStep) × Context)) : h = [] ∧ c' = c := by
    obtain ⟨rfl, hr⟩ := run
    cases hr
    exact ⟨rfl, rfl⟩
  rw [takeText_apply] at run
  split at run
  · split at run
    · obtain ⟨_, _, _, _, -, -, -, hr⟩ := Work.runs_bind_ok.1 run
      cases hr
    · exact idle run
  · exact idle run

end Visit

end Dialogue
