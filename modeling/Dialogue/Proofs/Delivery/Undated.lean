import Dialogue.Proofs.Delivery.Refusals

/-!
# Deliveries that leave the calendar

What a message says of its time is checked in UTC only, and the local clock shifts it afterwards.
So an instant of the first or the last day of the calendar may have no local date
(`LocalClock.date?_eq_none_iff`), and every clock that does not show UTC has a message of such an
instant (`ServiceSettings.exists_not_hasDate`). A delivery is cut off exactly by these events: if
it has one, and no vital call failed before (`ServiceSettings.outOfCalendar_iff`).
-/

namespace Dialogue

namespace LocalClock

/-- The clock shows an instant at a time outside of the calendar. -/
def Leaves (c : LocalClock) (i : Instant) : Prop :=
  i.second + c.offset < firstDay * 86400 ∨ (lastDay + 1) * 86400 ≤ i.second + c.offset

variable {c : LocalClock} {i : Instant}

theorem date?_eq_none_iff : c.date? i = none ↔ c.Leaves i := by
  have days : ¬ (firstDay ≤ (i.second + c.offset) / 86400
      ∧ (i.second + c.offset) / 86400 ≤ lastDay) ↔ c.Leaves i := by
    unfold Leaves
    omega
  rw [← days]
  unfold date? Date.ofDay?
  by_cases inside : firstDay ≤ (i.second + c.offset) / 86400
      ∧ (i.second + c.offset) / 86400 ≤ lastDay
  · simp [inside]
  · simp [inside]

/-- Only the first and the last day in UTC have such instants. -/
theorem Leaves.edge (leaves : c.Leaves i) : i.date.day = firstDay ∨ i.date.day = lastDay := by
  have above := c.offset_gt
  have below := c.offset_lt
  have first := i.first_le
  have last := i.lt_end
  unfold Leaves at leaves
  unfold Instant.date
  dsimp only
  omega

theorem not_leaves_of_offset_eq_zero (utc : c.offset = 0) : ¬ c.Leaves i := by
  have first := i.first_le
  have last := i.lt_end
  unfold Leaves
  omega

end LocalClock

namespace ServiceSettings

open DeliveryWork

variable (s : ServiceSettings)

theorem not_hasDate_iff {event : InboundEvent} :
    ¬ s.HasDate event ↔ ∃ time, event.timestamp? = some time ∧ s.clock.Leaves time := by
  unfold HasDate
  push Not
  refine exists_congr fun time => and_congr_right fun _ => ?_
  rw [← LocalClock.date?_eq_none_iff, ne_eq, Bool.not_eq_true, Option.isSome_eq_false_iff,
    Option.isNone_iff_eq_none]

theorem hasDate_of_facts? {event : InboundEvent} {phone : String} {text : Option String}
    {time : Instant} {facts : Facts} (htime : event.timestamp? = some time)
    (dated : s.clock.facts? phone text time = some facts) : s.HasDate event := by
  intro time' htime'
  obtain rfl : time = time' := Option.some.inj (htime.symm.trans htime')
  obtain ⟨date, hdate, -⟩ := Option.map_eq_some_iff.1 dated
  rw [hdate]
  rfl

section Handled

variable {s} {account : AccountId} {workflows : List Workflow} {h : History}

theorem hasDate_of_handled {raw : Json} {now : Instant} {event : InboundEvent}
    {outcome : DeliveryOutcome}
    (run : Program.Runs (s.handleEvent account workflows raw now event) h (.ok outcome)) :
    s.HasDate event := by
  cases event with
  | ignorable reason => exact fun time htime => absurd htime nofun
  | text event =>
    dsimp only [handleEvent] at run
    split at run
    · exact s.hasDate_of_facts? rfl ‹_›
    · obtain ⟨-, refused⟩ := run
      cases refused
  | reply event =>
    rcases runs_bind run with ⟨_, record, _, rfl, -, handled⟩ | ⟨_, -, refused⟩
    · split at handled
      · exact s.hasDate_of_facts? rfl ‹_›
      · obtain ⟨-, refused⟩ := handled
        cases refused
    · cases refused

theorem hasDate_of_handledMessages {receivedAt : Instant} {outcome : DeliveryOutcome} :
    ∀ {messages : List Json} {before : DeliveryOutcome} {h : History},
      Program.Runs (s.handleMessages account workflows receivedAt messages before) h
        (.ok outcome) →
      ∀ raw ∈ messages, s.HasDate (.ofJson raw receivedAt)
  | [], _, _, _ => List.forall_mem_nil _
  | raw :: r, _, _, run => by
    rcases runs_bind run with ⟨_, next, _, rfl, first, rest⟩ | ⟨_, -, refused⟩
    · exact List.forall_mem_cons.2 ⟨hasDate_of_handled first, hasDate_of_handledMessages rest⟩
    · cases refused

theorem dated_of_found {d : Delivery} {listed : Except WorkflowError (List Workflow)}
    {outcome : DeliveryOutcome} (run : Program.Runs (s.handleFound d listed) h (.ok outcome)) :
    s.Dated d := by
  rcases listed with err | _ | ⟨w, ws⟩
  · cases run.2
  · cases run.2
  · exact hasDate_of_handledMessages run

end Handled

/-- A text that says when it was sent. -/
def textAt (second : Int) : Json :=
  .obj [("chat_id", .str "919800000001@s.whatsapp.net"),
    ("text", .obj [("body", .str "hi")]), ("timestamp", .int second)]

/-- Unless the clock shows UTC, there is a text whose time is read and has no local date. -/
theorem exists_not_hasDate (s : ServiceSettings) (shifted : s.clock.offset ≠ 0) :
    ∃ second, ∀ receivedAt, ¬ s.HasDate (.ofJson (textAt second) receivedAt) := by
  rcases Int.lt_or_gt_of_ne shifted with west | east
  · refine ⟨firstDay * 86400, fun receivedAt => s.not_hasDate_iff.2 ⟨_, rfl, .inl ?_⟩⟩
    show firstDay * 86400 + s.clock.offset < firstDay * 86400
    omega
  · refine ⟨(lastDay + 1) * 86400 - 1, fun receivedAt => s.not_hasDate_iff.2 ⟨_, rfl, .inr ?_⟩⟩
    show (lastDay + 1) * 86400 ≤ (lastDay + 1) * 86400 - 1 + s.clock.offset
    omega

/-- Whatever the collaborators answer: the delivery is cut off exactly if its token is one of some
workflow, no vital call failed, and one of its events is at an instant that the local clock shows
outside of the calendar. So it ends with an outcome or a refusal if the clock shows UTC, and with
any clock if no event is on the first or the last day of the calendar. -/
theorem outOfCalendar_iff {σ : Type} (s : ServiceSettings) (d : Delivery)
    (answer : (r : Request) → σ → r.Answer × σ) (world : σ) :
    let handled := Program.run answer (s.handle d) world
    let h := Program.history answer (s.handle d) world
    let found := answer (.workflowsByToken d.account d.token) world
    let times := {time | ∃ raw ∈ InboundEvent.messages d.payload,
      (InboundEvent.ofJson raw d.receivedAt).timestamp? = some time}
    (handled.1 = .error .outOfCalendar ↔ found.1 ≠ Except.ok [] ∧ (∀ x ∈ h, ¬ Vital x)
      ∧ ∃ time ∈ times, s.clock.Leaves time)
    ∧ (s.clock.offset = 0 → handled.1 ≠ .error .outOfCalendar)
    ∧ ((∀ time ∈ times, firstDay < time.date.day ∧ time.date.day < lastDay) →
      handled.1 ≠ .error .outOfCalendar) := by
  intro handled h found times
  have undated : ¬ s.Dated d ↔ ∃ time ∈ times, s.clock.Leaves time := by
    unfold Dated
    push Not
    simp only [not_hasDate_iff]
    constructor
    · rintro ⟨raw, hraw, time, htime, leaves⟩
      exact ⟨time, ⟨raw, hraw, htime⟩, leaves⟩
    · rintro ⟨time, ⟨raw, hraw, htime⟩, leaves⟩
      exact ⟨raw, hraw, time, htime, leaves⟩
  have iff : handled.1 = .error .outOfCalendar ↔ found.1 ≠ Except.ok []
      ∧ (∀ x ∈ h, ¬ Vital x) ∧ ∃ time ∈ times, s.clock.Leaves time := by
    have handled_eq : handled = _ := s.run_handle_eq answer d world
    have h_eq : h = _ := s.history_handle_eq answer d world
    have run := Program.runs_history answer (s.handleFound d found.1) found.2
    rw [← undated]
    by_cases empty : found.1 = Except.ok []
    · rw [empty] at handled_eq
      refine iff_of_false ?_ fun ⟨unempty, _⟩ => unempty empty
      rw [handled_eq]
      exact nofun
    · -- How a delivery ended tells what its history holds; only the calendar is left at the end.
      have tells := s.tells_handleFound empty run
      rw [← h_eq, ← handled_eq] at tells
      rw [← handled_eq] at run
      constructor
      · intro cut
        rw [cut] at tells
        exact ⟨empty, tells.2, tells.1⟩
      · rintro ⟨-, kept, undated⟩
        rcases ended : handled.1 with (_ | details | _) | outcome
        · exact absurd ended tells.ne_unauthorized
        · obtain ⟨x, hx, vital⟩ := tells.persistence_iff.1 ⟨details, ended⟩
          exact absurd vital (kept x hx)
        · rfl
        · rw [ended] at run
          exact absurd (dated_of_found run) undated
  refine ⟨iff, fun utc cut => ?_, fun inner cut => ?_⟩
  · obtain ⟨-, -, time, -, leaves⟩ := iff.1 cut
    exact LocalClock.not_leaves_of_offset_eq_zero utc leaves
  · obtain ⟨-, -, time, htime, leaves⟩ := iff.1 cut
    obtain ⟨first, last⟩ := inner time htime
    rcases leaves.edge with edge | edge
    · exact absurd edge (Int.ne_of_gt first)
    · exact absurd edge (Int.ne_of_lt last)

open SharedToken in
/-- East of UTC the last second of the calendar in UTC has no local date, so a text of that second
cuts the delivery off, though the workflows were found. -/
theorem outOfCalendar_lastSecond :
    let d : Delivery := ⟨account, "token", .obj [("messages", .arr [textAt 8210266876799])], moment⟩
    (Program.run (World.answer moment) (settings.handle d) (world "wamid.1")).1
      = .error .outOfCalendar := by
  intro d
  have found : (World.answer moment (.workflowsByToken account "token") (world "wamid.1")).1
      ≠ Except.ok [] := nofun
  have asked : (settings.handle d).history (World.answer moment) (world "wamid.1")
      = [⟨.workflowsByToken account "token", Except.ok [taker, owner]⟩] := rfl
  have cut := outOfCalendar_iff settings d (World.answer moment) (world "wamid.1")
  refine cut.1.2 ⟨found, ?_, _, ⟨_, List.mem_singleton_self _, rfl⟩, .inr ?_⟩
  · rw [asked]
    exact List.forall_mem_singleton.2 id
  · show (lastDay + 1) * 86400 ≤ 8210266876799 + 3600
    decide

end ServiceSettings

end Dialogue
