import Dialogue.Proofs.Booking.Answers
import Dialogue.Proofs.Booking.Served
import Dialogue.Proofs.Conversation.Context

/-!
# Interviews

A reply that selects a time asks the first question, if there is one. Each text answers the question
that was put last and brings up the next one; nothing is asked of the store before the last answer.
What is requested then files every answer, without the blanks around it, under the field of its
question (`Visit.interviews_of_runs`).

Texts come in deliveries of their own, and between two of them the conversation is stored, loaded
and its variables may change, so only what it is in the middle of goes from one to the next. A text
that failed may find all as it was before, since the conversation is then not stored (`Offered`).
-/

namespace Dialogue

/-! ## Texts -/

/-- A text that is offered to a booking: in which visit, what it asks of the store, and what it
comes to. -/
structure TextCall where
  visit : Visit
  body : String
  asked : List BookingExchange
  result : Except BookingError (Option FlowStep)

namespace TextCall

variable (t : TextCall)

/-- The text is the answer to a question and brings up another one. -/
def Asks (prompt : String) : Prop := t.asked = [] ∧ t.result = .ok (some (.question prompt))

/-- Nobody waits for the text. -/
def Untaken : Prop := t.asked = [] ∧ t.result = .ok none

/-- The text is the last answer: the flow is over, and what was requested files the answers. -/
structure Books (settings : BookAppointment) (answers : List String) : Prop where
  files : ∀ x ∈ t.asked, ∀ request, x.1 = .create request → request.Files settings answers
  ends : ∀ o, t.result = .ok o → ∃ step, o = some step ∧ Visit.EndsBy settings t.asked step

/-- The text comes to a failure of the store. -/
def Failed : Prop := ∃ err, t.result = .error err

/-- The text is offered to the context and leaves another one. -/
def Runs (c left : Context) : Prop := (t.visit.takeText t.body c).Runs t.asked (t.result, left)

/-- The answer that the text gives. -/
def answer : String := Text.trim t.body

end TextCall

/-- Texts are offered one after another, each to the progress that the one before left. One that
failed may have left no trace, as the conversation is not stored then. -/
inductive Offered : Context → List TextCall → Prop
  | none (c : Context) : Offered c []
  | text {c left next : Context} {t : TextCall} {calls : List TextCall} : t.Runs c left →
    Context.SameProgress left next ∨ (t.Failed ∧ Context.SameProgress c next) →
    Offered next calls → Offered c (t :: calls)

/-- With some answers given, texts bring up the prompts that are left, one after another. The last
answer books; if that fails it can be given again. No text is taken after it. -/
structure Interview (settings : BookAppointment) (given : List String) (calls : List TextCall) :
    Prop where
  asks : ∀ i t next, calls[i]? = some t → settings.prompts[given.length + i + 1]? = some next →
    t.Asks next
  books : ∀ i t, calls[i]? = some t → settings.prompts.length ≤ given.length + i + 1 →
    (settings.prompts.length ≤ given.length + i ∧ t.Untaken)
      ∨ (∀ j u, j < i → calls[j]? = some u → settings.prompts.length ≤ given.length + j + 1 →
          u.Failed)
        ∧ t.Books settings
          ((given ++ calls.map TextCall.answer).take (settings.prompts.length - 1) ++ [t.answer])

namespace Interview

variable {settings : BookAppointment} {given : List String} {t : TextCall} {calls : List TextCall}

theorem nil : Interview settings given [] := by
  constructor
  · intro i t next ht
    simp at ht
  · intro i t ht
    simp at ht

/-- A text that brings up the next prompt comes before the others. -/
theorem ask {next : String} (prompt : settings.prompts[given.length + 1]? = some next)
    (asks : t.Asks next) (h : Interview settings (given ++ [t.answer]) calls) :
    Interview settings given (t :: calls) := by
  have some_left : given.length + 1 < settings.prompts.length :=
    (List.getElem?_eq_some_iff.1 prompt).1
  have length : (given ++ [t.answer]).length = given.length + 1 := List.length_append
  constructor
  · intro i u later hu hlater
    cases i with
    | zero =>
      obtain rfl : t = u := Option.some.inj hu
      obtain rfl : next = later := Option.some.inj (prompt.symm.trans hlater)
      exact asks
    | succ i =>
      refine h.asks i u later hu ?_
      rw [length, Nat.add_right_comm _ 1 i]
      exact hlater
  · intro i u hu behind
    cases i with
    | zero => exact absurd behind (by omega)
    | succ i =>
      rcases h.books i u hu (by omega) with ⟨after, untaken⟩ | ⟨failed, books⟩
      · exact .inl ⟨by omega, untaken⟩
      · refine .inr ⟨fun j w hj hw hbehind => ?_, ?_⟩
        · cases j with
          | zero => exact absurd hbehind (by omega)
          | succ j => exact failed j w (by omega) hw (by omega)
        · rwa [List.append_assoc] at books

/-- A last answer comes before texts that are not taken or, if it failed, before another one. -/
theorem last (all : settings.prompts.length = given.length + 1)
    (books : t.Books settings (given ++ [t.answer]))
    (h : (∀ u ∈ calls, u.Untaken) ∨ (t.Failed ∧ Interview settings given calls)) :
    Interview settings given (t :: calls) := by
  have earlier (l : List String) : (given ++ l).take (settings.prompts.length - 1) = given := by
    rw [all, Nat.add_sub_cancel, List.take_left]
  constructor
  · intro i u next hu hnext
    have := (List.getElem?_eq_some_iff.1 hnext).1
    omega
  · intro i u hu behind
    rw [earlier]
    cases i with
    | zero =>
      obtain rfl : t = u := Option.some.inj hu
      exact .inr ⟨fun j _ hj => absurd hj (Nat.not_lt_zero j), books⟩
    | succ i =>
      rcases h with untaken | ⟨first, h⟩
      · exact .inl ⟨by omega, untaken u (List.mem_of_getElem? hu)⟩
      · rcases h.books i u hu (by omega) with ⟨after, untaken⟩ | ⟨failed, books⟩
        · exact .inl ⟨by omega, untaken⟩
        · rw [earlier] at books
          refine .inr ⟨fun j w hj hw hbehind => ?_, books⟩
          cases j with
          | zero =>
            obtain rfl : t = w := Option.some.inj hw
            exact first
          | succ j => exact failed j w (by omega) hw (by omega)

end Interview

namespace Context

/-- The booking in progress waits for the next answer, with some answers given. -/
def Interviewed (settings : BookAppointment) (given : List String) (c : Context) : Prop :=
  ∃ p q, c.booking = some p ∧ p.flow = .book settings ∧ p.step.awaitsText = true
    ∧ c.capture = some q ∧ q.Holds settings given ∧ q.pending ≠ []

/-- Nothing waits for a text. -/
def Deaf (c : Context) : Prop := ∀ p, c.booking = some p → p.step.awaitsText = false

variable {c d left : Context} {settings : BookAppointment} {given : List String} {t : TextCall}

theorem Idle.deaf (h : c.Idle) : c.Deaf := by
  intro p hp
  rw [h.1] at hp
  cases hp

theorem Deaf.of_same (h : c.Deaf) (same : SameProgress c d) : d.Deaf :=
  fun p hp => h p (same.1 ▸ hp)

theorem Interviewed.of_same (h : c.Interviewed settings given) (same : SameProgress c d) :
    d.Interviewed settings given := by
  obtain ⟨p, q, hp, flow, waits, hq, holds, more⟩ := h
  exact ⟨p, q, same.1.trans hp, flow, waits, same.2.trans hq, holds, more⟩

/-- Once the first question is kept, an answer to it is waited for. -/
theorem interviewed_start (c : Context) {p : BookingProgress} {first : Question}
    {rest : List Question} (id : NodeId) (asks : settings.questions = first :: rest)
    (flow : p.flow = .book settings) (step : p.step = BookAppointment.stepOf first) :
    Interviewed settings []
      { c with booking := some p, capture := some (.start id (first :: rest)) } :=
  ⟨p, _, rfl, flow, step ▸ BookAppointment.awaitsText_stepOf first, rfl,
    asks ▸ Questionnaire.holds_start id settings, List.cons_ne_nil first rest⟩

theorem Deaf.untaken (h : c.Deaf) (run : t.Runs c left) : t.Untaken ∧ left = c := by
  unfold TextCall.Runs at run
  rw [Visit.takeText_apply] at run
  have ignored : t.asked = [] ∧ (t.result, left) = (.ok none, c) := by
    split at run
    · rename_i p q hp _
      rw [h p hp] at run
      exact run
    · exact run
  exact ⟨⟨ignored.1, congrArg Prod.fst ignored.2⟩, congrArg Prod.snd ignored.2⟩

/-- One text is taken: it brings up the next prompt, or it is the last answer. -/
theorem Interviewed.takes (h : c.Interviewed settings given) (run : t.Runs c left) :
    (∃ next, settings.prompts[given.length + 1]? = some next ∧ t.Asks next
        ∧ left.Interviewed settings (given ++ [t.answer]))
      ∨ settings.prompts.length = given.length + 1 ∧ t.Books settings (given ++ [t.answer])
        ∧ left.Idle := by
  obtain ⟨p, q, hp, flow, waits, hq, holds, more⟩ := h
  obtain ⟨open₁, rest, hopen⟩ := List.exists_cons_of_ne_nil more
  obtain ⟨pending, holds'⟩ := holds.answered hopen t.answer
  have length := holds.length
  rw [hopen, List.length_cons] at length
  unfold TextCall.Runs at run
  rw [Visit.takeText_apply, hp, hq] at run
  dsimp only at run
  rw [waits, flow] at run
  obtain ⟨r, run, result⟩ := Work.runs_map run
  cases rest with
  | nil =>
    refine .inr ⟨length.symm, ?_⟩
    unfold Visit.takeAnswer Questionnaire.current? at run
    rw [show (q.answered (Text.trim t.body)).pending = [] from pending] at run
    obtain ⟨ends, requested⟩ := (t.visit.concludes_complete p).of_runs run
    refine ⟨⟨fun x hx request made => ?_, fun o ho => ?_⟩, ends.idle⟩
    · obtain ⟨department, slot, date, rfl⟩ := requested x hx request made
      exact holds'.files pending t.visit department slot date
    · rw [result] at ho
      cases r with
      | error err => cases ho
      | ok step =>
        obtain rfl : some step = o := Except.ok.inj ho
        exact ⟨step, rfl, ends.ends step rfl⟩
  | cons next rest =>
    have prompt : settings.prompts[given.length + 1]? = some next.text := by
      have prompts := congrArg (fun l => l[1]?) holds.prompt
      rw [hopen] at prompts
      simpa using prompts.symm
    unfold Visit.takeAnswer Questionnaire.current? at run
    rw [show (q.answered (Text.trim t.body)).pending = next :: rest from pending] at run
    obtain ⟨asked, ends⟩ := run
    obtain ⟨rfl, rfl⟩ := Prod.mk.inj ends
    refine .inl ⟨next.text, prompt, ⟨asked, result⟩, ?_⟩
    exact ⟨_, _, rfl, flow, BookAppointment.awaitsText_stepOf next, rfl, holds',
      pending ▸ List.cons_ne_nil next rest⟩

theorem Deaf.untaken_all {calls : List TextCall} (h : c.Deaf) (offered : Offered c calls) :
    ∀ t ∈ calls, t.Untaken := by
  induction offered with
  | none c => exact List.forall_mem_nil _
  | text run later offered ih =>
    obtain ⟨untaken, rfl⟩ := h.untaken run
    have same := later.elim id And.right
    exact List.forall_mem_cons.2 ⟨untaken, ih (h.of_same same)⟩

/-- Texts are taken as an interview goes. -/
theorem Interviewed.interview {calls : List TextCall} (h : c.Interviewed settings given)
    (offered : Offered c calls) : Interview settings given calls := by
  induction offered generalizing given with
  | none c => exact .nil
  | @text c left next t calls run later offered ih =>
    rcases h.takes run with ⟨prompt, asked, asks, waits⟩ | ⟨all, books, idle⟩
    · rcases later with same | ⟨⟨err, failed⟩, -⟩
      · exact .ask asked asks (ih (waits.of_same same))
      · rw [asks.2] at failed
        cases failed
    · rcases later with same | ⟨failed, same⟩
      · exact .last all books (.inl ((idle.deaf.of_same same).untaken_all offered))
      · exact .last all books (.inr ⟨failed, ih (h.of_same same)⟩)

end Context

/-! ## The reply that selects a time -/

namespace Visit

open BookingWork

/-- What the selection of a time comes to: it fails or does not fit, and the context is as it was;
or the time is no longer available; or the first question is asked; or there is none to ask, and
the flow is concluded. -/
inductive Picked (settings : BookAppointment) (p : BookingProgress) (c : Context) :
    List BookingExchange → Except BookingError (Option FlowStep) × Context → Prop
  | failed {h : List BookingExchange} (err : BookingError) : Quiet h →
    Picked settings p c h (.error err, c)
  | declined {h : List BookingExchange} : Quiet h → Picked settings p c h (.ok none, c)
  | unavailable {h : List BookingExchange} : Quiet h →
    Picked settings p c h (.ok (some (.ending settings.unavailableMessage)), c.clearProgress)
  | asks {h : List BookingExchange} {q : BookingProgress} {first : Question}
    {rest : List Question} : Quiet h → settings.questions = first :: rest → q.flow = p.flow →
    q.step = BookAppointment.stepOf first →
    Picked settings p c h (.ok (some (.question first.text)),
      { c with booking := some q, capture := some (.start p.nodeId (first :: rest)) })
  | concludes {h : List BookingExchange} {r : Except BookingError FlowStep} {d : Context} :
    settings.questions = [] → Concluded settings h (r, d) → Picked settings p c h (r.map some, d)

variable {v : Visit} {c : Context} {p : BookingProgress} {settings : BookAppointment}

/-- Work comes to what the selection of a time comes to. -/
abbrev PicksTime (v : Visit) (settings : BookAppointment) (p : BookingProgress)
    (g : List BookingExchange) (w : BookingWork (Option FlowStep)) (c : Context) : Prop :=
  (w c).Traced (fun _ => v.Requests none) (Picked settings p c) g

theorem picksTime_ask {g : List BookingExchange} {q : BookingQuery}
    {f : q.Answer → BookingWork (Option FlowStep)} (hg : Quiet g) (hq : q.changes = false)
    (hf : ∀ a, v.PicksTime settings p (g ++ [⟨q, .ok a⟩]) (f a) c) :
    v.PicksTime settings p g (ask q >>= f) c := by
  refine ⟨requests_of_not_changes hq, fun r => ?_⟩
  cases r with
  | ok a => exact hf a
  | error err => exact Picked.failed err (hg.concat hq)

theorem picksTime_selectSlot (id : SlotId) (date : Date) :
    v.PicksTime settings p [] (v.selectSlot p settings id date) c := by
  have quiet : Quiet [] := by simp [Quiet]
  unfold selectSlot
  refine picksTime_ask quiet rfl fun slot => ?_
  have quiet₁ := quiet.concat (x := ⟨.getSlot v.accountId id, .ok slot⟩) rfl
  split
  · rename_i slot
    split
    · refine picksTime_ask quiet₁ rfl fun room => ?_
      have quiet₂ := quiet₁.concat
        (x := ⟨.availability slot.staffId date slot.startTime none, .ok room⟩) rfl
      split
      · dsimp only
        split
        · rename_i none_asked
          refine Work.traced_bind (v.concludes_complete _) (fun h step d ends => ?_)
            fun h err d ends => ?_
          · exact Picked.concludes (r := .ok step) none_asked ends
          · exact Picked.concludes (r := .error err) none_asked ends
        · rename_i asks
          exact Picked.asks quiet₂ asks rfl rfl
      · exact Picked.unavailable quiet₂
    · exact Picked.declined quiet₁
  · exact Picked.declined quiet₁

/-- The reply selected no time: it failed or was rejected, or the time is no longer available. -/
inductive Unpicked (settings : BookAppointment) : Except BookingError ReplyHandling → Prop
  | failed (err : BookingError) : Unpicked settings (.error err)
  | rejected : Unpicked settings (.ok .rejected)
  | unavailable : Unpicked settings (.ok (.handled (.ending settings.unavailableMessage)))

/-- What a reply with the row of a time and the texts after it come to. Where nothing is asked, the
reply requests bookings without answers only, and no text is taken. Otherwise it requests none: if
it selects the time, it asks the first prompt and the texts go on as an interview, and if not, no
text is taken. -/
structure Interviews (settings : BookAppointment) (h : List BookingExchange)
    (r : Except BookingError ReplyHandling) (calls : List TextCall) : Prop where
  unasked : settings.prompts = [] →
    (∀ x ∈ h, ∀ request, x.1 = .create request → request.Files settings [])
      ∧ (∀ step, r = .ok (.handled step) → EndsBy settings h step)
      ∧ ∀ t ∈ calls, t.Untaken
  asked : ∀ first, settings.prompts.head? = some first → Quiet h
    ∧ (r = .ok (.handled (.question first)) ∧ Interview settings [] calls
      ∨ Unpicked settings r ∧ ∀ t ∈ calls, t.Untaken)

theorem Unpicked.interviews {h : List BookingExchange} {r : Except BookingError ReplyHandling}
    {calls : List TextCall} (hr : Unpicked settings r) (quiet : Quiet h)
    (untaken : ∀ t ∈ calls, t.Untaken) : Interviews settings h r calls := by
  refine ⟨fun _ => ⟨fun x hx request made => ?_, ?_, untaken⟩,
    fun _ _ => ⟨quiet, .inr ⟨hr, untaken⟩⟩⟩
  · have reads := quiet x hx
    rw [made] at reads
    cases reads
  · rintro step rfl
    cases hr
    exact .unavailable

/-- Where nothing is asked, the flow is concluded without answers. -/
theorem Concluded.interviews {h : List BookingExchange} {s : Except BookingError FlowStep}
    {d : Context} {calls : List TextCall} (none_asked : settings.questions = [])
    (ends : Concluded settings h (s, d)) (requested : ∀ x ∈ h, v.Requests none x.1)
    (untaken : ∀ t ∈ calls, t.Untaken) :
    Interviews settings h (s.map .handled) calls := by
  have prompts : settings.prompts = [] := by
    rw [← settings.map_text_questions, none_asked, List.map_nil]
  constructor
  · refine fun _ => ⟨fun x hx request made => ?_, fun step hstep => ?_, untaken⟩
    · obtain ⟨department, slot, date, rfl⟩ := requested x hx request made
      refine ⟨congrArg List.length prompts.symm, ?_, ?_, ?_⟩
      · exact (ite_self none).symm
      · exact (ite_self none).symm
      · exact (ite_self none).symm
    · cases s with
      | error err => cases hstep
      | ok s =>
        obtain rfl : s = step := ReplyHandling.handled.inj (Except.ok.inj hstep)
        exact ends.ends s rfl
  · intro first hfirst
    rw [prompts] at hfirst
    cases hfirst

/-- Where the first prompt is asked, the texts after it are an interview. -/
theorem interviews_of_asks {first : Question} {rest : List Question} {h : List BookingExchange}
    {calls : List TextCall} (asks : settings.questions = first :: rest) (quiet : Quiet h)
    (interview : Interview settings [] calls) :
    Interviews settings h (.ok (.handled (.question first.text))) calls := by
  have prompts : settings.prompts = first.text :: rest.map Question.text := by
    rw [← settings.map_text_questions, asks, List.map_cons]
  constructor
  · intro none_asked
    exact absurd (prompts.symm.trans none_asked) (List.cons_ne_nil _ _)
  · intro prompt hprompt
    rw [prompts] at hprompt
    obtain rfl : first.text = prompt := Option.some.inj hprompt
    exact ⟨quiet, .inl ⟨rfl, interview⟩⟩

/-- Whatever the selection of a time came to, the reply and the texts after it come to what an
interview comes to. -/
theorem Picked.interviews {h : List BookingExchange} {o : Except BookingError (Option FlowStep)}
    {r : Except BookingError ReplyHandling} {d left next : Context} {calls : List TextCall}
    (picked : Picked settings p c h (o, d)) (flow : p.flow = .book settings) (deaf : c.Deaf)
    (requested : ∀ x ∈ h, v.Requests none x.1) (ends : (r, left) = replied (o, d))
    (later : Context.SameProgress left next
      ∨ ((∃ err, r = .error err) ∧ Context.SameProgress c next))
    (offered : Offered next calls) : Interviews settings h r calls := by
  have untaken (hl : left.Deaf) : ∀ t ∈ calls, t.Untaken := by
    rcases later with same | ⟨-, same⟩
    · exact (hl.of_same same).untaken_all offered
    · exact (deaf.of_same same).untaken_all offered
  cases picked with
  | failed err quiet =>
    obtain ⟨rfl, rfl⟩ := Prod.mk.inj ends
    exact Unpicked.interviews (.failed err) quiet (untaken deaf)
  | declined quiet =>
    obtain ⟨rfl, rfl⟩ := Prod.mk.inj ends
    exact Unpicked.interviews .rejected quiet (untaken c.idle_clearProgress.deaf)
  | unavailable quiet =>
    obtain ⟨rfl, rfl⟩ := Prod.mk.inj ends
    exact Unpicked.interviews .unavailable quiet (untaken c.idle_clearProgress.deaf)
  | asks quiet asks flow' step' =>
    obtain ⟨rfl, rfl⟩ := Prod.mk.inj ends
    have waits := c.interviewed_start p.nodeId asks (flow'.trans flow) step'
    rcases later with same | ⟨⟨err, failed⟩, -⟩
    · exact interviews_of_asks asks quiet ((waits.of_same same).interview offered)
    · cases failed
  | @concludes s _ none_asked concluded =>
    have result : (r, left) = (s.map .handled, d) := by
      cases s with
      | error err => exact ends
      | ok step => exact ends
    obtain ⟨rfl, rfl⟩ := Prod.mk.inj result
    exact Concluded.interviews none_asked concluded requested (untaken concluded.idle.deaf)

/-- Take a booking of any settings that waits for a time, a reply with the row of one, and any texts
after it, whatever the store answers to each. They come to what an interview comes to. -/
theorem interviews_of_runs {left next : Context} (replyId : String) {id : SlotId} {date : Date}
    {h : List BookingExchange} {r : Except BookingError ReplyHandling} {calls : List TextCall}
    (booking : c.booking = some p) (flow : p.flow = .book settings) (step : p.step = .selectSlot)
    (row : Selection.parse? replyId = some (.slot id date))
    (run : (v.takeReply replyId c).Runs h (r, left))
    (later : Context.SameProgress left next
      ∨ ((∃ err, r = .error err) ∧ Context.SameProgress c next))
    (offered : Offered next calls) : Interviews settings h r calls := by
  rw [takeReply_apply, row, booking] at run
  obtain ⟨⟨o, d⟩, selected, ends⟩ := v.runs_takeSelection run
  rw [flow, step] at selected
  have traced : v.PicksTime settings p [] (v.selectSlot p settings id date) c :=
    picksTime_selectSlot id date
  have deaf : c.Deaf := by
    intro q hq
    obtain rfl : p = q := Option.some.inj (booking.symm.trans hq)
    rw [step]
    rfl
  have picked : Picked settings p c h (o, d) := traced.result selected
  exact picked.interviews flow deaf (traced.allowed_of_mem selected) ends later offered

end Visit

/-! A name and two questions, answered by three texts; a fourth one comes when all is booked. -/

namespace ThreeQuestions

open Practice

def settings : BookAppointment :=
  { BookAppointment.standard with
    customQuestion1 := some "Is this your first visit?"
    customQuestion2 := some "Anything we should know?" }

def visit : Visit := ⟨account, "919800000001", monday, .ofSecond 32400, 1⟩

def tables : BookingTables :=
  BookingTables.empty.changeAll (staffed ++ [.addSlot account ⟨2⟩ .monday noon 1])

def progress : BookingProgress :=
  ⟨.selectSlot, "book", .book settings, some ⟨1⟩, some ⟨2⟩, none, none, none⟩

def context : Context := ⟨[], some progress, none⟩

def pick : Program BookingQuery (fun q => Except BookingError q.Answer)
    (Except BookingError ReplyHandling × Context) :=
  visit.takeReply "booking_slot_3_20260309" context

/-- What the reply asks. -/
def asked : List BookingExchange := pick.history (BookingTables.reply now) tables

/-- What the reply comes to. -/
def taken : Except BookingError ReplyHandling := (pick.run (BookingTables.reply now) tables).1.1

/-- The context that the reply leaves. -/
def picked : Context := (pick.run (BookingTables.reply now) tables).1.2

/-- Texts that are taken one after another. -/
def texts : List String → Context → BookingTables → List TextCall
  | [], _, _ => []
  | body :: bodies, c, t =>
    let work := visit.takeText body c
    let ((result, left), u) := work.run (BookingTables.reply now) t
    ⟨visit, body, work.history (BookingTables.reply now) t, result⟩ :: texts bodies left u

theorem offered_texts : ∀ (bodies : List String) (c : Context) (t : BookingTables),
    Offered c (texts bodies c t)
  | [], c, _ => .none c
  | body :: bodies, c, t =>
    .text (Program.runs_history (BookingTables.reply now) (visit.takeText body c) t)
      (.inl ⟨rfl, rfl⟩) (offered_texts bodies _ _)

def calls : List TextCall := texts ["  Asha ", "yes", "no\n", "Thanks!"] picked tables

/-- Whether the flow goes on as booked behind a text. -/
def isBooked (t : TextCall) : Bool :=
  match t.result with
  | .ok (some step) => step.transition == .follow .booked
  | _ => false

end ThreeQuestions

open ThreeQuestions Practice in
/-- The third text books under all three answers. -/
theorem Visit.interviews_threeQuestions :
    pick.Runs asked (taken, picked) ∧ Offered picked calls
      ∧ taken = .ok (.handled (.question settings.namePrompt))
      ∧ Interview settings [] calls
      ∧ ∃ t request b, calls[2]? = some t ∧ ⟨.create request, .ok (.created b)⟩ ∈ t.asked
        ∧ request.Files settings ["Asha", "yes", "no"] := by
  have run : pick.Runs asked (taken, picked) :=
    Program.runs_history (BookingTables.reply Practice.now) pick tables
  have offered : Offered picked calls := offered_texts _ _ _
  have row : Selection.parse? "booking_slot_3_20260309" = some (.slot ⟨3⟩ monday) := by
    decide +kernel
  have interviews := interviews_of_runs (p := progress) "booking_slot_3_20260309" rfl rfl rfl row
    run (.inl ⟨rfl, rfl⟩) offered
  obtain ⟨t, third, last⟩ := (Option.any_eq_true (fun t => isBooked t && t.answer == "no") _).1
    (by decide +kernel : calls[2]?.any (fun t => isBooked t && t.answer == "no") = true)
  obtain ⟨booked, answer⟩ := Bool.and_eq_true_iff.1 last
  obtain ⟨result, interview⟩ : taken = .ok (.handled (.question settings.namePrompt))
      ∧ Interview settings [] calls := by
    rcases (interviews.asked settings.namePrompt rfl).2 with selected | ⟨-, untaken⟩
    · exact selected
    · unfold isBooked at booked
      rw [(untaken t (List.mem_of_getElem? third)).2] at booked
      cases booked
  have books : t.Books settings ["Asha", "yes", "no"] := by
    have earlier : ([] ++ calls.map TextCall.answer).take (settings.prompts.length - 1)
        = ["Asha", "yes"] := by decide +kernel
    rcases interview.books 2 t third (by decide) with ⟨after, -⟩ | ⟨-, books⟩
    · exact absurd after (by decide)
    · rw [earlier, eq_of_beq answer] at books
      exact books
  refine ⟨run, offered, result, interview, t, ?_⟩
  unfold isBooked at booked
  split at booked
  · rename_i step hstep
    obtain ⟨_, ⟨⟩, ends⟩ := books.ends _ hstep
    cases ends with
    | booked _ made => exact ⟨_, _, third, made, books.files _ made _ rfl⟩
    | gone => cases booked
    | unavailable => cases booked
  · cases booked

end Dialogue
