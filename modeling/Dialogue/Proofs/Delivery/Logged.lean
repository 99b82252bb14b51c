import Dialogue.Proofs.Chain.Sent
import Dialogue.Proofs.Delivery.Histories

/-!
# What a chain leaves in the log

Behind every chain one entry is appended to the execution log, whether the chain went well or not,
and only then the conversation is saved, if it did (`EventScope.runs_finish`). The entry is the
chain's own account: it lists the messages that the messaging client accepted, by the nodes that
sent them, and tells of a failure exactly if the chain was stopped (`EventScope.audited_runChain`).
-/

namespace Dialogue

open ConversationTable

/-- The exchange is an attempt to append an entry to the execution log. -/
def Logs (x : Exchange Request.Answer) : Prop := ∃ entry, x.1 = .appendLog entry

/-- A chain runs within a contract that forbids to log. -/
def ChainScope.unlogged (e : ChainScope) : NodeContract e where
  conversation _ := True
  exchange x := ¬ Logs x
  failure _ := True
  advance _ _ _ := trivial
  set _ _ _ _ := trivial
  clear _ _ := trivial
  start _ _ _ _ := trivial
  ask x hx := by
    rintro ⟨entry, h⟩
    rw [h] at hx
    exact hx
  save _ _ _ := by
    rintro ⟨entry, ⟨⟩⟩
  fail _ _ := trivial

namespace ChainScope

variable {e : ChainScope} {c : Conversation} {start : ChainStart}
  {h : List (Exchange Request.Answer)}

theorem not_logs_of_runs {r : ChainReport × Conversation} (run : (e.run c start).Runs h r) :
    ∀ x ∈ h, ¬ Logs x :=
  (e.unlogged.ensures_run (fun _ => trivial) trivial start h r run).1

/-- The error that a result stopped with. -/
def errorOf (r : Except ChainError Unit) : Option ChainError :=
  match r with
  | .ok _ => none
  | .error err => some err

/-- The run of a chain is one of legs, whose responses are those of the report. -/
theorem exists_legs_of_runs_run {report : ChainReport} {d : Conversation}
    (run : (e.run c start).Runs h (report, d)) :
    ∃ (legs : List Leg) (r : Except ChainError Unit) (s : ChainState),
      h = legs.flatMap Leg.history
        ∧ (e.marked start (.start c)).Runs (legs.flatMap Leg.marked) (r, s)
        ∧ report.error = errorOf r ∧ report.responses = legs.flatMap Leg.responses
        ∧ recorded h = legs.flatMap (Leg.records e) ∧ FailsAsSaved h (r, s) := by
  obtain ⟨h, ⟨r, s⟩, g, rfl, driven, rfl, ended⟩ := Program.runs_bind.1 run
  obtain ⟨legs, rfl, marked, toured⟩ := exists_legs_of_runs driven
  cases ended
  rw [List.append_nil]
  exact ⟨legs, r, s, rfl, marked, rfl, toured.responses, toured.records, toured.fails⟩

end ChainScope

namespace EventScope

variable (e : EventScope)

/-- What is done behind a chain: an entry is appended, and behind it the conversation is saved if
the chain went well. A failure to append is passed over. -/
theorem runs_finish {w : Workflow} {report : ChainReport} {c : Conversation} {h : History}
    {r : Except DeliveryError Unit} (run : Program.Runs (e.finish w report c) h r) :
    ∃ id logged rest, h = ⟨.newLogId, id⟩ :: ⟨.appendLog (.new id w.id e.facts.phone e.kind e.raw
        report.responses (report.error.map ChainError.message) e.now), logged⟩ :: rest
      ∧ match report.error with
        | some err =>
          rest = [] ∧ r = if err.isPersistence then .error (.persistence err.message) else .ok ()
        | none => ∃ a, rest = [⟨.saveConversation c, a⟩] ∧ r = a.mapError fun err =>
          .persistence (ChainError.saveFailed (Text.report err.message)).message := by
  obtain ⟨responses, _ | err⟩ := report
  · obtain ⟨id, h, rfl, logged, rest, rfl, a, g, rfl, rfl, rfl⟩ := run
    exact ⟨id, logged, _, rfl, a, rfl, rfl⟩
  · obtain ⟨id, h, rfl, logged, rest, rfl, run⟩ := run
    refine ⟨id, logged, rest, rfl, ?_⟩
    have run : Program.Runs (if err.isPersistence = true then
      (throw (.persistence err.message) : DeliveryWork Unit) else (pure () : DeliveryWork Unit))
      rest r := run
    split at run
    · rename_i saving
      obtain ⟨rfl, rfl⟩ := run
      exact ⟨rfl, (if_pos saving).symm⟩
    · rename_i other
      obtain ⟨rfl, rfl⟩ := run
      exact ⟨rfl, (if_neg other).symm⟩

/-- Behind a chain nothing is sent and nothing recorded. -/
theorem unsent_finish {w : Workflow} {report : ChainReport} {c : Conversation} {h : History}
    {r : Except DeliveryError Unit} (run : Program.Runs (e.finish w report c) h r) :
    accepted h = [] ∧ recorded h = [] := by
  obtain ⟨id, logged, rest, rfl, ended⟩ := e.runs_finish run
  split at ended
  · rw [ended.1]
    exact ⟨rfl, rfl⟩
  · obtain ⟨a, rfl, -⟩ := ended
    exact ⟨rfl, rfl⟩

/-- Behind the entry nothing else is logged. -/
theorem not_logs_of_finish {w : Workflow} {report : ChainReport} {c : Conversation}
    {id : ExecutionLogId} {x : Exchange Request.Answer} {rest : History}
    {r : Except DeliveryError Unit}
    (run : Program.Runs (e.finish w report c) (⟨.newLogId, id⟩ :: x :: rest) r) :
    ∀ y ∈ rest, ¬ Logs y := by
  obtain ⟨id, logged, rest, same, ended⟩ := e.runs_finish run
  cases same
  split at ended
  · rw [ended.1]
    simp
  · obtain ⟨a, rfl, -⟩ := ended
    simp [Logs]

theorem runChain_eq (w : Workflow) (c : Conversation) (start : ChainStart) :
    @Eq (DeliveryWork Unit) (e.runChain w c start)
      (((e.chain w).run c start).bind fun a => e.finish w a.1 a.2) := by
  unfold runChain
  rw [DeliveryWork.bind_eq]
  exact Program.bind_assoc ((e.chain w).run c start) _ _

/-- What the history of a chain and of what is done behind it tells, and what the chain reports. -/
structure Audited (w : Workflow) (c : Conversation) (start : ChainStart) (report : ChainReport)
    (legs : List Leg) (entry : LogEntry) (h : History) : Prop where
  marked : ∃ r s, ((e.chain w).marked start (.start c)).Runs (legs.flatMap Leg.marked) (r, s)
    ∧ report.error = ChainScope.errorOf r
  history : ∃ id logged rest, h = legs.flatMap Leg.history
      ++ ⟨.newLogId, id⟩ :: ⟨.appendLog entry, logged⟩ :: rest
    ∧ ∀ x ∈ legs.flatMap Leg.history ++ rest, ¬ Logs x
  accepted : accepted h = legs.flatMap fun l => accepted l.history
  responses : report.responses = legs.flatMap Leg.responses
  recorded : recorded h = legs.flatMap (Leg.records (e.chain w))
  entry : entry.workflowId = w.id ∧ entry.phone = e.facts.phone
    ∧ entry.responses = report.responses ∧ (entry.status = .failed ↔ report.error.isSome = true)

theorem audited_of_runs {w : Workflow} {c d : Conversation} {start : ChainStart}
    {report : ChainReport} {g k : History} {r : Except DeliveryError Unit}
    (ran : ((e.chain w).run c start).Runs g (report, d))
    (finished : Program.Runs (e.finish w report d) k r) :
    ∃ legs entry, e.Audited w c start report legs entry (g ++ k) := by
  have unlogged := ChainScope.not_logs_of_runs ran
  obtain ⟨unsent, unrecorded⟩ := e.unsent_finish finished
  obtain ⟨legs, a, s, rfl, marked, error, responses, records, -⟩ :=
    ChainScope.exists_legs_of_runs_run ran
  obtain ⟨id, logged, rest, rfl, -⟩ := e.runs_finish finished
  refine ⟨legs, _, ⟨⟨a, s, marked, error⟩, ⟨id, logged, rest, rfl, fun x hx => ?_⟩, ?_, responses,
    ?_, rfl, rfl, rfl, ?_⟩⟩
  · rcases List.mem_append.1 hx with hx | hx
    · exact unlogged x hx
    · exact e.not_logs_of_finish finished x hx
  · rw [accepted_append, unsent, List.append_nil]
    exact List.filterMap_flatMap
  · rw [recorded_append, unrecorded, List.append_nil, records]
  · cases report.error <;> simp [LogEntry.new]

/-- Whatever the collaborators answer, a chain reports the messages that the messaging client
accepted, in order and each under the node that sent it; every interactive one of them, and no
other, was to be recorded as one of the workflow to the phone; and behind the chain there is one
attempt to append an entry, which lists the same responses and is marked as failed exactly if an
error stopped the chain. -/
theorem audited_runChain {σ : Type} (w : Workflow) (c : Conversation) (start : ChainStart)
    (answer : (r : Request) → σ → r.Answer × σ) (world : σ) :
    ∃ legs entry, e.Audited w c start (((e.chain w).run c start).run answer world).1.1 legs entry
      (Program.history answer (e.runChain w c start) world) := by
  have ran := Program.runs_history answer ((e.chain w).run c start) world
  rw [runChain_eq, Program.history_bind]
  exact e.audited_of_runs ran (Program.runs_history answer (e.finish w _ _) _)

end EventScope

end Dialogue
