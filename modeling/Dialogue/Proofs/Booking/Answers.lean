import Dialogue.Proofs.Booking.Turns

/-!
# Questions and answers

Behind the selection of a time a booking node may ask for a name and put up to two questions of its
own. The questions that are open and the answers that were given are kept apart from the booking.
`Questionnaire.Holds` says of both together that they are the questions of the node, in order; it is
what every answer preserves, so that an answer can be filed by its place (`Holds.files`).

The work that concludes a flow requests bookings with the given answers only, and ends as booked
behind a booking that was made, or stops (`Visit.concludes_complete`).
-/

namespace Dialogue

namespace BookAppointment

/-- What a participant is asked, in order. -/
def prompts (c : BookAppointment) : List String :=
  (if c.askName then [c.namePrompt] else []) ++ c.customQuestion1.toList ++
    c.customQuestion2.toList

theorem map_text_questions (c : BookAppointment) : c.questions.map Question.text = c.prompts := by
  unfold questions prompts
  cases c.askName <;> cases c.customQuestion1 <;> cases c.customQuestion2 <;> rfl

/-- Where the question of a key stands, if it is asked at all. -/
def place? (c : BookAppointment) (key : String) : Option Nat :=
  (c.questions.map Question.key).findIdx? (· == key)

theorem place?_nameKey (c : BookAppointment) :
    c.place? nameKey = if c.askName then some 0 else none := by
  unfold place? questions
  cases c.askName <;> cases c.customQuestion1 <;> cases c.customQuestion2 <;> rfl

theorem place?_custom1Key (c : BookAppointment) :
    c.place? custom1Key = if c.customQuestion1.isSome then some c.askName.toNat else none := by
  unfold place? questions
  cases c.askName <;> cases c.customQuestion1 <;> cases c.customQuestion2 <;> rfl

theorem place?_custom2Key (c : BookAppointment) :
    c.place? custom2Key = if c.customQuestion2.isSome then
      some (c.askName.toNat + c.customQuestion1.isSome.toNat) else none := by
  unfold place? questions
  cases c.askName <;> cases c.customQuestion1 <;> cases c.customQuestion2 <;> rfl

end BookAppointment

/-- The request says what was answered to the prompts: every answer under the field of its prompt,
and nothing under the fields of others. -/
structure BookingRequest.Files (r : BookingRequest) (settings : BookAppointment)
    (answers : List String) : Prop where
  all : answers.length = settings.prompts.length
  name : r.customerName = if settings.askName then answers[0]? else none
  first : r.customAnswer1 =
    if settings.customQuestion1.isSome then answers[settings.askName.toNat]? else none
  second : r.customAnswer2 =
    if settings.customQuestion2.isSome then
      answers[settings.askName.toNat + settings.customQuestion1.isSome.toNat]?
    else none

/-! ## Questions and answers -/

namespace Questionnaire

/-- The questions are those of a node, and these answers were given so far. -/
structure Holds (q : Questionnaire) (settings : BookAppointment) (given : List String) : Prop where
  questions : q.answers.map Answer.question ++ q.pending = settings.questions
  given : q.answers.map Answer.value = given

variable {q : Questionnaire} {settings : BookAppointment} {given : List String}

theorem holds_start (id : NodeId) (settings : BookAppointment) :
    (start id settings.questions).Holds settings [] := ⟨rfl, rfl⟩

theorem Holds.answered (h : q.Holds settings given) {open₁ : Question} {rest : List Question}
    (waits : q.pending = open₁ :: rest) (value : String) :
    (q.answered value).pending = rest ∧ (q.answered value).Holds settings (given ++ [value]) := by
  have questions := h.questions
  unfold Questionnaire.answered
  rw [waits] at questions ⊢
  refine ⟨rfl, ?_, ?_⟩
  · simpa using questions
  · simp [h.given]

theorem Holds.length (h : q.Holds settings given) :
    given.length + q.pending.length = settings.prompts.length := by
  rw [← settings.map_text_questions, ← h.questions, ← h.given]
  simp

/-- The open question is the prompt behind the answers given. -/
theorem Holds.prompt (h : q.Holds settings given) :
    q.pending.map Question.text = settings.prompts.drop given.length := by
  rw [← settings.map_text_questions, ← h.questions, ← h.given, List.map_append]
  simp

/-- When all is answered, the answer to a key is the one at the place of its question. -/
theorem Holds.answer? (h : q.Holds settings given) (done : q.pending = []) (key : String) :
    q.answer? key = (settings.place? key).bind fun i => given[i]? := by
  have keys : q.answers.map (·.question.key) = settings.questions.map Question.key := by
    rw [← h.questions, done, List.append_nil, List.map_map]
    rfl
  unfold Questionnaire.answer? BookAppointment.place?
  rw [← keys, ← h.given]
  clear keys h done
  induction q.answers with
  | nil => rfl
  | cons a answers ih =>
    rw [List.find?_cons, List.map_cons, List.map_cons, List.findIdx?_cons]
    cases a.question.key == key with
    | true => rfl
    | false =>
      dsimp only
      rw [ih, if_neg Bool.false_ne_true, Option.bind_map]
      rfl

/-- When all is answered, a request files the answers. -/
theorem Holds.files (h : q.Holds settings given) (done : q.pending = []) (v : Visit)
    (department : DepartmentId) (slot : TimeSlot) (date : Date) :
    (v.request department slot date (some q)).Files settings given := by
  have length := h.length
  rw [done, List.length_nil, Nat.add_zero] at length
  refine ⟨length, ?_, ?_, ?_⟩
  · show q.answer? BookAppointment.nameKey = _
    rw [h.answer? done, settings.place?_nameKey]
    split <;> rfl
  · show q.answer? BookAppointment.custom1Key = _
    rw [h.answer? done, settings.place?_custom1Key]
    split <;> rfl
  · show q.answer? BookAppointment.custom2Key = _
    rw [h.answer? done, settings.place?_custom2Key]
    split <;> rfl

end Questionnaire

/-! ## The end of a flow -/

namespace Visit

open BookingWork

/-- The step that ends a flow: it goes on as booked, behind a booking that was made, or stops,
because the slot is gone or no longer available. -/
inductive EndsBy (settings : BookAppointment) (h : List BookingExchange) : FlowStep → Prop
  | booked {step : FlowStep} {request : BookingRequest} {b : Booking} :
    step.transition = .follow .booked → ⟨.create request, .ok (.created b)⟩ ∈ h →
    EndsBy settings h step
  | gone : EndsBy settings h .silent
  | unavailable : EndsBy settings h (.ending settings.unavailableMessage)

/-- Nothing is in progress, and the flow ends, unless the store failed. -/
structure Concluded (settings : BookAppointment) (h : List BookingExchange)
    (r : Except BookingError FlowStep × Context) : Prop where
  idle : r.2.Idle
  ends : ∀ step, r.1 = .ok step → EndsBy settings h step

theorem Concluded.failed {settings : BookAppointment} {h : List BookingExchange} {c : Context}
    (hc : c.Idle) (err : BookingError) : Concluded settings h (.error err, c) :=
  ⟨hc, nofun⟩

theorem Concluded.ok {settings : BookAppointment} {h : List BookingExchange} {c : Context}
    {step : FlowStep} (hc : c.Idle) (ends : EndsBy settings h step) :
    Concluded settings h (.ok step, c) := by
  refine ⟨hc, ?_⟩
  rintro _ ⟨⟩
  exact ends

variable (v : Visit)

/-- The query requests no booking but one with the given answers. -/
def Requests (answers : Option Questionnaire) (q : BookingQuery) : Prop :=
  ∀ request, q = .create request →
    ∃ department slot date, request = v.request department slot date answers

/-- Work requests bookings with the given answers only, and concludes the flow. -/
abbrev Concludes (settings : BookAppointment) (answers : Option Questionnaire)
    (g : List BookingExchange) (w : BookingWork FlowStep) (c : Context) : Prop :=
  (w c).Traced (fun _ => v.Requests answers) (Concluded settings) g

variable {v} {settings : BookAppointment} {answers : Option Questionnaire}
  {g : List BookingExchange} {c : Context}

theorem concludes_ask {q : BookingQuery} {f : q.Answer → BookingWork FlowStep} (hc : c.Idle)
    (hq : v.Requests answers q)
    (hf : ∀ a, v.Concludes settings answers (g ++ [⟨q, .ok a⟩]) (f a) c) :
    v.Concludes settings answers g (ask q >>= f) c := by
  refine ⟨hq, fun r => ?_⟩
  cases r with
  | ok a => exact hf a
  | error err => exact Concluded.failed hc err

theorem concludes_clear {f : PUnit → BookingWork FlowStep}
    (h : v.Concludes settings answers g (f ⟨⟩) c.clearProgress) :
    v.Concludes settings answers g (clear >>= f) c := h

theorem requests_of_not_changes {q : BookingQuery} (hq : q.changes = false) :
    v.Requests answers q := by
  rintro request rfl
  cases hq

theorem Concludes.of_runs {w : BookingWork FlowStep} (hw : v.Concludes settings answers [] w c)
    {h : List BookingExchange} {r : Except BookingError FlowStep × Context}
    (run : (w c).Runs h r) : Concluded settings h r ∧ ∀ x ∈ h, v.Requests answers x.1 :=
  ⟨hw.result run, hw.allowed_of_mem run⟩

variable (v)

/-- Behind a booking that was written, its announcement concludes the flow. -/
theorem concludes_announce (hc : c.Idle) {request : BookingRequest} {b : Booking}
    (made : ⟨.create request, .ok (.created b)⟩ ∈ g) (text : String) :
    v.Concludes settings answers g
      (v.announce b text >>= fun text => pure (.outcome text .booked)) c := by
  unfold Concludes announce
  rw [Work.bind_assoc_apply]
  refine concludes_ask hc (requests_of_not_changes rfl) fun department => ?_
  unfold Concludes
  rw [Work.bind_assoc_apply]
  refine concludes_ask hc (requests_of_not_changes rfl) fun staff => ?_
  have told := List.mem_append_left [⟨.getStaff v.accountId b.staffId, .ok staff⟩]
    (List.mem_append_left [⟨.getDepartment v.accountId b.departmentId, .ok department⟩] made)
  exact Concluded.ok (c.idle_set hc _ _) (.booked rfl told)

theorem concludes_place (hc : c.Idle) (department : DepartmentId) (slot : TimeSlot)
    (date : Date) :
    v.Concludes settings answers g (v.place settings department slot date answers) c := by
  unfold place
  refine concludes_ask hc (requests_of_not_changes rfl) fun room => ?_
  split
  · refine concludes_ask hc ?_ fun placement => ?_
    · rintro _ ⟨⟩
      exact ⟨department, slot, date, rfl⟩
    · split
      · exact Concluded.ok hc .unavailable
      · exact v.concludes_announce hc List.mem_concat_self _
  · exact Concluded.ok hc .unavailable

theorem concludes_complete (p : BookingProgress) :
    v.Concludes settings answers g (v.complete p settings answers) c := by
  have hc := c.idle_clearProgress
  unfold complete
  refine concludes_clear ?_
  split
  · refine concludes_ask hc (requests_of_not_changes rfl) fun slot => ?_
    split
    · exact v.concludes_place hc _ _ _
    · exact Concluded.ok hc .gone
  · exact Concluded.ok hc .gone

end Visit

end Dialogue
