import Dialogue.Booking.Flow
import Dialogue.Proofs.Work

/-!
# What follows when a booking is written

A step of a flow writes at most once: it makes a booking or moves one. All that it asks afterwards
are the names of the department and of the member of staff, for the text that confirms the booking.
If both are found the step is taken and the context is in the middle of nothing; if one of the
look-ups fails the step fails (`writing_takeReply`, `writing_takeText`). The first steps of flows
write nothing.
-/

namespace Dialogue

/-- The steps that flows start with. -/
def BookingStep.IsFirst (s : BookingStep) : Prop := s = .selectDepartment ∨ s = .selectBooking

/-- A query and its answer. -/
abbrev BookingExchange : Type := Exchange fun q : BookingQuery => Except BookingError q.Answer

/-- A booking was made or moved. -/
def BookingExchange.Writes : BookingExchange → Prop
  | ⟨.create _, .ok (.created _)⟩ => True
  | ⟨.reschedule _ _ _ _, .ok (some (.created _))⟩ => True
  | _ => False

/-- How work ends that looks up the names of a booking: by one of the look-ups, or with a result
of a kind and a context without booking. -/
inductive Announced {α : Type} (kind : α → Prop) :
    List BookingExchange → Except BookingError α × Context → Prop
  | department (account : AccountId) (id : DepartmentId) (e : BookingError) (c : Context) :
    Announced kind [⟨.getDepartment account id, .error e⟩] (.error e, c)
  | staff (account : AccountId) (id : DepartmentId) (d : Option Department) (id' : StaffId)
    (e : BookingError) (c : Context) :
    Announced kind [⟨.getDepartment account id, .ok d⟩, ⟨.getStaff account id', .error e⟩]
      (.error e, c)
  | named (account : AccountId) (id : DepartmentId) (d : Option Department) (id' : StaffId)
    (s : Option Staff) (a : α) (c : Context) : kind a → c.booking = none →
    Announced kind [⟨.getDepartment account id, .ok d⟩, ⟨.getStaff account id', .ok s⟩] (.ok a, c)

/-- Work that only looks up the names of a booking, where the context satisfies `pre`. -/
def Announces {α : Type} (pre : Context → Prop) (kind : α → Prop) (w : BookingWork α) : Prop :=
  ∀ c h r, pre c → (w c).Runs h r → Announced kind h r

/-- Work that only looks up the names of a booking once it has written one. -/
def Writing {α : Type} (pre : Context → Prop) (kind : α → Prop) (w : BookingWork α) : Prop :=
  ∀ c h₁ x h₂ r, pre c → (w c).Runs (h₁ ++ x :: h₂) r → BookingExchange.Writes x →
    Announced kind h₂ r

/-- The contract of work that writes nothing. -/
def readOnly (pre : Context → Prop) :
    Contract BookingError Context fun q : BookingQuery => Except BookingError q.Answer where
  state := pre
  exchange x := ¬ BookingExchange.Writes x
  failure _ := True

section Rules

variable {α β : Type} {pre : Context → Prop} {kind mid : α → Prop} {kind' : β → Prop}
  {w : BookingWork α} {f : α → BookingWork β}

theorem Announced.map {g : α → β} (hg : ∀ a, kind a → kind' (g a)) {h : List BookingExchange}
    {r : Except BookingError α × Context} (ha : Announced kind h r) :
    Announced kind' h (r.1.map g, r.2) := by
  cases ha with
  | department account id e c => exact .department account id e c
  | staff account id d id' e c => exact .staff account id d id' e c
  | named account id d id' s a c ka hc => exact .named account id d id' s (g a) c (hg a ka) hc

theorem Announces.map (hw : Announces pre kind w) {g : α → β} (hg : ∀ a, kind a → kind' (g a)) :
    Announces pre kind' (w >>= fun a => pure (g a)) := by
  intro c h r hc run
  rw [Work.bind_apply] at run
  obtain ⟨h₁, ⟨a, c'⟩, h₂, rfl, run₁, run₂⟩ := Program.runs_bind.1 run
  have ha := (hw c h₁ _ hc run₁).map hg
  cases a with
  | ok a =>
    obtain ⟨rfl, rfl⟩ := run₂
    rw [List.append_nil]
    exact ha
  | error e =>
    obtain ⟨rfl, rfl⟩ := run₂
    rw [List.append_nil]
    exact ha

theorem Announces.clear (hw : Announces (fun c => c.booking = none) kind w) :
    Announces (fun _ => True) kind (BookingWork.clear >>= fun _ => w) :=
  fun c h r _ run => hw c.clearProgress h r rfl run

theorem Writing.clear (hw : Writing (fun c => c.booking = none) kind w) :
    Writing (fun _ => True) kind (BookingWork.clear >>= fun _ => w) :=
  fun c h₁ x h₂ r _ run hx => hw c.clearProgress h₁ x h₂ r rfl run hx

/-- Work that writes nothing need not be asked what it does after a write. -/
theorem Writing.of_readOnly (hw : (readOnly pre).Keeps w fun _ => True) : Writing pre kind w := by
  intro c h₁ x h₂ r hc run hx
  exact absurd hx ((hw c hc _ r run).1 x (by simp))

theorem Writing.strengthen (hw : Writing (fun _ => True) kind w) : Writing pre kind w :=
  fun c h₁ x h₂ r _ run hx => hw c h₁ x h₂ r trivial run hx

theorem Writing.bind_readOnly (hw : (readOnly pre).Keeps w mid)
    (hf : ∀ a, mid a → Writing pre kind' (f a)) : Writing pre kind' (w >>= f) := by
  intro c h₁ x h₂ r hc run hx
  rw [Work.bind_apply] at run
  rcases Program.runs_bind_at run with
    ⟨a, g₁, g₂, rfl, run₁, -⟩ | ⟨⟨a, c'⟩, g₁, g₂, rfl, run₁, run₂⟩
  · exact absurd hx ((hw c hc _ a run₁).1 x (by simp))
  · obtain ⟨hc', ha⟩ := (hw c hc _ _ run₁).2
    cases a with
    | ok a => exact hf a ha c' g₂ x h₂ r hc' run₂ hx
    | error e =>
      obtain ⟨h, -⟩ := run₂
      simp at h

/-- What follows a write goes through work that takes its results as they are. -/
theorem Writing.bind (hw : Writing pre kind w) (hk : ∀ a, kind a → ∃ b, f a = pure b ∧ kind' b)
    (hf : ∀ a, Writing (fun _ => True) kind' (f a)) : Writing pre kind' (w >>= f) := by
  intro c h₁ x h₂ r hc run hx
  rw [Work.bind_apply] at run
  rcases Program.runs_bind_at run with
    ⟨a, g₁, g₂, rfl, run₁, run₂⟩ | ⟨⟨a, c'⟩, g₁, g₂, rfl, -, run₂⟩
  · cases hw c h₁ x g₁ a hc run₁ hx with
    | department account id e c =>
      obtain ⟨rfl, rfl⟩ := run₂
      exact .department account id e c
    | staff account id d id' e c =>
      obtain ⟨rfl, rfl⟩ := run₂
      exact .staff account id d id' e c
    | named account id d id' s a c ha hc =>
      obtain ⟨b, hb, hkind⟩ := hk a ha
      dsimp only at run₂
      rw [hb] at run₂
      obtain ⟨rfl, rfl⟩ := run₂
      exact .named account id d id' s b c hkind hc
  · cases a with
    | ok a => exact hf a c' g₂ x h₂ r trivial run₂ hx
    | error e =>
      obtain ⟨h, -⟩ := run₂
      simp at h

theorem Writing.map (hw : Writing pre kind w) {g : α → β} (hg : ∀ a, kind a → kind' (g a)) :
    Writing pre kind' (w >>= fun a => pure (g a)) :=
  hw.bind (fun a ha => ⟨g a, rfl, hg a ha⟩) fun _ => .of_readOnly (.pure trivial)

theorem runs_ask_bind {q : BookingQuery} {f : q.Answer → BookingWork β} {c : Context}
    {h : List BookingExchange} {r : Except BookingError β × Context}
    (run : ((BookingWork.ask q >>= f) c).Runs h r) :
    (∃ a h', h = ⟨q, .ok a⟩ :: h' ∧ (f a c).Runs h' r)
      ∨ ∃ e, h = [⟨q, .error e⟩] ∧ r = (.error e, c) := by
  obtain ⟨a, h', rfl, run⟩ := run
  cases a with
  | ok a => exact .inl ⟨a, h', rfl, run⟩
  | error e =>
    obtain ⟨rfl, rfl⟩ := run
    exact .inr ⟨e, rfl, rfl⟩

theorem not_writes_error {q : BookingQuery} {e : BookingError} :
    ¬ BookingExchange.Writes ⟨q, .error e⟩ := by
  cases q <;> exact id

/-- A query that may write is followed by nothing but look-ups once it has written. -/
theorem Writing.ask {q : BookingQuery} {f : q.Answer → BookingWork β}
    (hw : ∀ a, BookingExchange.Writes ⟨q, .ok a⟩ → Announces pre kind' (f a))
    (hf : ∀ a, Writing pre kind' (f a)) : Writing pre kind' (BookingWork.ask q >>= f) := by
  intro c h₁ x h₂ r hc run hx
  rcases runs_ask_bind run with ⟨a, h', hh, run'⟩ | ⟨e, hh, -⟩
  · rcases List.append_eq_cons_iff.1 hh with ⟨rfl, hh⟩ | ⟨g, rfl, rfl⟩
    · obtain ⟨rfl, rfl⟩ := List.cons.inj hh
      exact hw a hx c _ r hc run'
    · exact hf a c g x h₂ r hc run' hx
  · have hx' : x ∈ [(⟨q, .error e⟩ : BookingExchange)] := hh ▸ by simp
    rw [List.mem_singleton] at hx'
    subst hx'
    exact absurd hx not_writes_error

theorem keeps_readOnly_ask {q : BookingQuery} (hq : ∀ r, ¬ BookingExchange.Writes ⟨q, r⟩) :
    (readOnly pre).Keeps (BookingWork.ask q) fun _ => True := by
  intro c hc
  refine .ask fun r => ⟨hq r, .done ⟨hc, ?_⟩⟩
  cases r <;> trivial

end Rules

namespace Visit

variable (v : Visit)

/-! ## Steps that write nothing -/

section ReadOnly

variable {pre : Context → Prop}

theorem keeps_clear : (readOnly fun _ => True).Keeps BookingWork.clear fun _ => True :=
  .modify fun _ _ => trivial

theorem keeps_keep (p : BookingProgress) :
    (readOnly fun _ => True).Keeps (BookingWork.keep p) fun _ => True :=
  .modify fun _ _ => trivial

theorem keeps_clear_pure {α : Type} {a : α} :
    (readOnly fun _ => True).Keeps (BookingWork.clear >>= fun _ => pure a) fun _ => True :=
  keeps_clear.bind fun _ _ => .pure trivial

theorem keeps_keep_pure {α : Type} {p : BookingProgress} {a : α} :
    (readOnly fun _ => True).Keeps (BookingWork.keep p >>= fun _ => pure a) fun _ => True :=
  (keeps_keep p).bind fun _ _ => .pure trivial

theorem keeps_keepQuestions (q : Questionnaire) :
    (readOnly fun _ => True).Keeps (BookingWork.keepQuestions q) fun _ => True :=
  .modify fun _ _ => trivial

theorem keeps_firstOpen (staff : StaffId) (excluding : Option BookingId) :
    ∀ (n : Nat) (times : List Occurrence),
      (readOnly pre).Keeps (firstOpen staff excluding n times) fun _ => True
  | 0, _ => by
    unfold firstOpen
    exact .pure trivial
  | _ + 1, [] => by
    unfold firstOpen
    exact .pure trivial
  | n + 1, o :: r => by
    unfold firstOpen
    refine (keeps_readOnly_ask (q := .availability _ _ _ _) fun _ h => h).bind fun room _ => ?_
    split
    · refine (keeps_firstOpen staff excluding n r).bind fun more _ => ?_
      exact .pure trivial
    · exact keeps_firstOpen staff excluding (n + 1) r

theorem keeps_openTimes (staff : StaffId) (configured : Option UInt32)
    (excluding : Option BookingId) :
    (readOnly pre).Keeps (v.openTimes staff configured excluding) fun _ => True := by
  unfold openTimes
  refine (keeps_readOnly_ask (q := .listSlots _ _) fun _ h => h).bind fun weekly _ => ?_
  exact keeps_firstOpen staff excluding _ _

theorem keeps_ownBooking? (id : BookingId) :
    (readOnly pre).Keeps (v.ownBooking? id) fun _ => True := by
  unfold ownBooking?
  refine (keeps_readOnly_ask (q := .get _ _) fun _ h => h).bind fun booking _ => ?_
  exact .pure trivial

theorem keeps_announce (b : Booking) (text : String) :
    (readOnly fun _ => True).Keeps (v.announce b text) fun _ => True := by
  unfold announce
  refine (keeps_readOnly_ask (q := .getDepartment _ _) fun _ h => h).bind fun department _ => ?_
  refine (keeps_readOnly_ask (q := .getStaff _ _) fun _ h => h).bind fun staff _ => ?_
  refine (Contract.Keeps.modify fun _ _ => trivial).bind fun _ _ => ?_
  refine Contract.Keeps.get.bind fun c _ => ?_
  exact .pure trivial

theorem keeps_selectDepartment (p : BookingProgress) (c : BookAppointment) (id : DepartmentId) :
    (readOnly fun _ => True).Keeps (v.selectDepartment p c id) fun _ => True := by
  unfold selectDepartment
  refine (keeps_readOnly_ask (q := .getDepartment _ _) fun _ h => h).bind fun department _ => ?_
  split
  · refine (keeps_readOnly_ask (q := .listStaff _ _) fun _ h => h).bind fun staff _ => ?_
    split
    · exact keeps_clear_pure
    · exact keeps_keep_pure
  · exact .pure trivial

theorem keeps_selectStaff (p : BookingProgress) (c : BookAppointment) (id : StaffId) :
    (readOnly fun _ => True).Keeps (v.selectStaff p c id) fun _ => True := by
  unfold selectStaff
  refine (keeps_readOnly_ask (q := .getStaff _ _) fun _ h => h).bind fun staff _ => ?_
  split
  · split
    · exact .pure trivial
    · refine (v.keeps_openTimes _ _ _).bind fun times _ => ?_
      split
      · exact keeps_clear_pure
      · exact keeps_keep_pure
  · exact .pure trivial

theorem keeps_cancel (c : CheckBookings) (id : BookingId) :
    (readOnly fun _ => True).Keeps (v.cancel c id) fun _ => True := by
  unfold cancel
  refine (v.keeps_ownBooking? id).bind fun booking _ => ?_
  split
  · refine (keeps_readOnly_ask (q := .cancel _ _) fun _ h => h).bind fun done _ => ?_
    split
    · refine keeps_clear.bind fun _ _ => (v.keeps_announce _ _).bind fun text _ => ?_
      exact .pure trivial
    · exact .pure trivial
  · exact .pure trivial

theorem keeps_startReschedule (p : BookingProgress) (c : CheckBookings) (id : BookingId) :
    (readOnly fun _ => True).Keeps (v.startReschedule p c id) fun _ => True := by
  unfold startReschedule
  refine (v.keeps_ownBooking? id).bind fun booking _ => ?_
  split
  · refine (v.keeps_openTimes _ _ _).bind fun times _ => ?_
    dsimp only
    split
    · exact keeps_clear_pure
    · exact keeps_keep_pure
  · exact .pure trivial

/-- The first steps of flows write nothing. -/
theorem keeps_select_first {p : BookingProgress} {flow : BookingFlow} {step : BookingStep}
    (h : step.IsFirst) (s : Selection) :
    (readOnly fun _ => True).Keeps (v.select p flow step s) fun _ => True := by
  unfold select
  split
  · exact v.keeps_selectDepartment p _ _
  · rcases h with h | h <;> cases h
  · rcases h with h | h <;> cases h
  · split
    · exact v.keeps_cancel _ _
    · exact .pure trivial
  · split
    · exact v.keeps_startReschedule p _ _
    · exact .pure trivial
  · rcases h with h | h <;> cases h
  · exact .pure trivial

end ReadOnly

/-! ## Steps that write -/

theorem announces_announce (b : Booking) (text : String) :
    Announces (fun c => c.booking = none) (fun _ => True) (v.announce b text) := by
  intro c h r hc run
  unfold announce at run
  rcases runs_ask_bind run with ⟨d, h, rfl, run'⟩ | ⟨e, rfl, rfl⟩
  · rcases runs_ask_bind run' with ⟨s, h, rfl, run''⟩ | ⟨e, rfl, rfl⟩
    · obtain ⟨rfl, rfl⟩ := run''
      refine .named _ _ d _ s _ _ trivial ?_
      dsimp only [Context.set]
      split <;> exact hc
    · exact .staff _ _ d _ e c
  · exact .department _ _ e c

theorem writing_announce_bind (b : Booking) (text : String) {g : String → FlowStep}
    {pre : Context → Prop} {kind : FlowStep → Prop} :
    Writing pre kind (v.announce b text >>= fun text => pure (g text)) := by
  refine .strengthen (.of_readOnly ((v.keeps_announce b text).bind fun _ _ => ?_))
  exact .pure trivial

theorem writing_place (c : BookAppointment) (department : DepartmentId) (slot : TimeSlot)
    (date : Date) (answers : Option Questionnaire) :
    Writing (fun x => x.booking = none) (fun _ => True)
      (v.place c department slot date answers) := by
  unfold place
  refine .bind_readOnly (keeps_readOnly_ask (q := .availability _ _ _ _) fun _ h => h)
    fun room _ => ?_
  split
  · refine .ask (fun placement hw => ?_) fun placement => ?_
    · cases placement with
      | full room => exact absurd hw id
      | created booking => exact (v.announces_announce booking _).map fun _ _ => trivial
    · cases placement with
      | full room => exact .of_readOnly (.pure trivial)
      | created booking => exact v.writing_announce_bind booking _
  · exact .of_readOnly (.pure trivial)

theorem writing_complete (p : BookingProgress) (c : BookAppointment)
    (answers : Option Questionnaire) :
    Writing (fun _ => True) (fun _ => True) (v.complete p c answers) := by
  unfold complete
  refine .clear ?_
  split
  · refine .bind_readOnly (keeps_readOnly_ask (q := .getSlot _ _) fun _ h => h) fun slot _ => ?_
    split
    · exact v.writing_place c _ _ _ answers
    · exact .of_readOnly (.pure trivial)
  · exact .of_readOnly (.pure trivial)

theorem writing_selectSlot (p : BookingProgress) (c : BookAppointment) (id : SlotId)
    (date : Date) :
    Writing (fun _ => True) (fun o => ∃ step, o = some step) (v.selectSlot p c id date) := by
  unfold selectSlot
  refine .bind_readOnly (keeps_readOnly_ask (q := .getSlot _ _) fun _ h => h) fun slot _ => ?_
  split
  · split
    · refine .bind_readOnly (keeps_readOnly_ask (q := .availability _ _ _ _) fun _ h => h)
        fun room _ => ?_
      split
      · dsimp only
        split
        · exact (v.writing_complete _ c none).map fun step _ => ⟨step, rfl⟩
        · refine .of_readOnly ((keeps_keepQuestions _).bind fun _ _ => ?_)
          exact keeps_keep_pure
      · exact .of_readOnly keeps_clear_pure
    · exact .of_readOnly (.pure trivial)
  · exact .of_readOnly (.pure trivial)

theorem writing_selectNewSlot (p : BookingProgress) (c : CheckBookings) (id : SlotId)
    (date : Date) :
    Writing (fun _ => True) (fun o => ∃ step, o = some step) (v.selectNewSlot p c id date) := by
  unfold selectNewSlot
  split
  · refine .bind_readOnly (keeps_readOnly_ask (q := .getSlot _ _) fun _ h => h) fun slot _ => ?_
    split
    · split
      · refine .bind_readOnly (v.keeps_ownBooking? _) fun booking _ => ?_
        split
        · refine .ask (fun placement hw => ?_) fun placement => ?_
          · rcases placement with _ | ⟨booking | room⟩
            · exact hw.elim
            · exact .clear ((v.announces_announce booking _).map fun text _ => ⟨_, rfl⟩)
            · exact hw.elim
          · refine .bind_readOnly keeps_clear fun _ _ => ?_
            split
            · exact .of_readOnly (.pure trivial)
            · exact .of_readOnly (.pure trivial)
            · refine .of_readOnly ((v.keeps_announce _ _).bind fun text _ => ?_)
              exact .pure trivial
        · exact .of_readOnly (.pure trivial)
      · exact .of_readOnly (.pure trivial)
    · exact .of_readOnly (.pure trivial)
  · exact .of_readOnly (.pure trivial)

theorem writing_select (p : BookingProgress) (flow : BookingFlow) (step : BookingStep)
    (s : Selection) :
    Writing (fun _ => True) (fun o => ∃ step, o = some step) (v.select p flow step s) := by
  by_cases h : step.IsFirst
  · exact .of_readOnly (v.keeps_select_first h s)
  · unfold select
    split
    · exact absurd (.inl rfl) h
    · exact .of_readOnly (v.keeps_selectStaff p _ _)
    · exact v.writing_selectSlot p _ _ _
    · exact absurd (.inr rfl) h
    · exact absurd (.inr rfl) h
    · exact v.writing_selectNewSlot p _ _ _
    · exact .of_readOnly (.pure trivial)

theorem writing_takeSelection (p : BookingProgress) (s : Selection) :
    Writing (fun _ => True) (fun o => ∃ step, o = .handled step) (v.takeSelection p s) := by
  refine (v.writing_select p p.flow p.step s).bind ?_ fun o => ?_
  · rintro _ ⟨step, rfl⟩
    exact ⟨.handled step, rfl, step, rfl⟩
  · cases o with
    | some step => exact .of_readOnly (.pure trivial)
    | none =>
      exact .of_readOnly keeps_clear_pure

theorem keeps_takeSelection_first {p : BookingProgress} (h : p.step.IsFirst) (s : Selection) :
    (readOnly fun _ => True).Keeps (v.takeSelection p s) fun _ => True := by
  unfold takeSelection
  refine (v.keeps_select_first h s).bind fun o _ => ?_
  split
  · exact .pure trivial
  · exact keeps_clear_pure

/-- What a reply comes to, by what its selection came to and the context that it left. -/
def replied : Except BookingError (Option FlowStep) × Context →
    Except BookingError ReplyHandling × Context
  | (.ok (some step), c) => (.ok (.handled step), c)
  | (.ok none, c) => (.ok .rejected, c.clearProgress)
  | (.error err, c) => (.error err, c)

/-- A reply asks what its selection asks. -/
theorem runs_takeSelection {p : BookingProgress} {s : Selection} {c : Context}
    {h : List BookingExchange} {r : Except BookingError ReplyHandling × Context}
    (run : (v.takeSelection p s c).Runs h r) :
    ∃ selected, (v.select p p.flow p.step s c).Runs h selected ∧ r = replied selected := by
  unfold takeSelection at run
  rw [Work.bind_apply] at run
  obtain ⟨h₁, ⟨o, d⟩, h₂, rfl, selected, rest⟩ := Program.runs_bind.1 run
  have ends : h₂ = [] ∧ r = replied (o, d) := by
    cases o with
    | error err => exact rest
    | ok o =>
      cases o with
      | none => exact rest
      | some step => exact rest
  obtain ⟨rfl, rfl⟩ := ends
  rw [List.append_nil]
  exact ⟨(o, d), selected, rfl⟩

theorem takeReply_apply (replyId : String) (c : Context) :
    v.takeReply replyId c = match Selection.parse? replyId, c.booking with
      | some s, some p => v.takeSelection p s c
      | _, _ => .done (.ok .notForFlow, c) := by
  unfold takeReply
  cases Selection.parse? replyId with
  | none => rfl
  | some s =>
    show (match some s, c.booking with
      | some s, some p => v.takeSelection p s
      | _, _ => pure .notForFlow : BookingWork ReplyHandling) c = _
    cases c.booking <;> rfl

theorem takeText_apply (text : String) (c : Context) :
    v.takeText text c = match c.booking, c.capture with
      | some p, some q => match p.step.awaitsText, p.flow with
        | true, .book settings =>
          (v.takeAnswer p settings (q.answered (Text.trim text)) >>= fun step =>
            pure (some step)) c
        | _, _ => .done (.ok none, c)
      | _, _ => .done (.ok none, c) := by
  show (match c.booking, c.capture with
      | some p, some q => match p.step.awaitsText, p.flow with
        | true, .book settings =>
          v.takeAnswer p settings (q.answered (Text.trim text)) >>= fun step => pure (some step)
        | _, _ => pure none
      | _, _ => pure none : BookingWork (Option FlowStep)) c = _
  cases c.booking with
  | none => rfl
  | some p =>
    cases c.capture with
    | none => rfl
    | some q =>
      dsimp only
      cases p.step.awaitsText <;> cases p.flow <;> rfl

/-- A reply writes only for a booking in progress behind its first step, and is taken unless a
look-up of a name fails. -/
theorem writing_takeReply {replyId : String} {c : Context} {h₁ h₂ : List BookingExchange}
    {x : BookingExchange} {r : Except BookingError ReplyHandling × Context}
    (run : (v.takeReply replyId c).Runs (h₁ ++ x :: h₂) r) (hx : x.Writes) :
    (∃ p, c.booking = some p ∧ ¬ p.step.IsFirst)
      ∧ Announced (fun o => ∃ step, o = .handled step) h₂ r := by
  rw [takeReply_apply] at run
  split at run
  · rename_i s p _ hp
    refine ⟨⟨p, hp, fun hfirst => ?_⟩, v.writing_takeSelection p s c h₁ x h₂ r trivial run hx⟩
    exact (v.keeps_takeSelection_first hfirst s c trivial _ r run).1 x (by simp) hx
  · obtain ⟨h, -⟩ := run
    simp at h

theorem writing_takeAnswer (p : BookingProgress) (c : BookAppointment) (q : Questionnaire) :
    Writing (fun _ => True) (fun _ => True) (v.takeAnswer p c q) := by
  unfold takeAnswer
  split
  · refine .of_readOnly ((keeps_keep _).bind fun _ _ => (keeps_keepQuestions q).bind fun _ _ => ?_)
    exact .pure trivial
  · exact v.writing_complete p c _

/-- A text writes only for a booking in progress that waits for one, and is taken unless a look-up
of a name fails. -/
theorem writing_takeText {text : String} {c : Context} {h₁ h₂ : List BookingExchange}
    {x : BookingExchange} {r : Except BookingError (Option FlowStep) × Context}
    (run : (v.takeText text c).Runs (h₁ ++ x :: h₂) r) (hx : x.Writes) :
    (∃ p, c.booking = some p ∧ ¬ p.step.IsFirst)
      ∧ Announced (fun o => ∃ step, o = some step) h₂ r := by
  rw [takeText_apply] at run
  split at run
  · rename_i p q hp _
    split at run
    · rename_i settings hwaits _
      have hw : Writing (fun _ => True) (fun o => ∃ step, o = some step)
          (v.takeAnswer p settings (q.answered (Text.trim text)) >>= fun step =>
            pure (some step)) :=
        (v.writing_takeAnswer p settings _).map fun step _ => ⟨step, rfl⟩
      refine ⟨⟨p, hp, ?_⟩, hw c h₁ x h₂ r trivial run hx⟩
      rintro (h | h) <;> rw [h] at hwaits <;> cases hwaits
    · obtain ⟨h, -⟩ := run
      simp at h
  · obtain ⟨h, -⟩ := run
    simp at h

end Visit

end Dialogue
