import Dialogue.Proofs.Booking.Accepted

/-!
# Whatever is offered is accepted

A list that a call sends has a row for each of one to ten different selections, and a reply with any
of them is accepted in the context that the call leaves, as long as the store stays as it is
(`FlowCall.offers_accepted`). What is offered comes from queries for lists, and what is accepted
from look-ups by number; each kind of list has one lemma that brings the two together.
-/

namespace Dialogue

/-- The rows of the list are those of selections that differ, at least one and at most ten. -/
structure ListMessage.Offers (l : ListMessage) (offered : List Selection) : Prop where
  rows : l.rows.map (·.id) = offered.map (·.rowId)
  nodup : offered.Nodup
  pos : 0 < offered.length
  le : offered.length ≤ Occurrence.maxRows

/-- A selection leads to a step on the tables as they are. -/
def Visit.Accepts (v : Visit) (t : BookingTables) (c : Context) (s : Selection) : Prop :=
  ∃ p, c.booking = some p ∧
    ∀ now, t.Yields now (v.select p p.flow p.step s) c fun o _ _ => o.isSome = true

/-- Whatever the lists of the step offer is accepted. -/
def FlowStep.Offers (s : FlowStep) (v : Visit) (t : BookingTables) (c : Context) : Prop :=
  ∀ l, .list l ∈ s.messages → ∃ offered, l.Offers offered ∧ ∀ x ∈ offered, v.Accepts t c x

theorem FlowStep.ListsNothing.offers {s : FlowStep} (h : s.ListsNothing) (v : Visit)
    (t : BookingTables) (c : Context) : s.Offers v t c :=
  fun l hl => absurd hl (h l)

section

variable {v : Visit} {t : BookingTables} {c : Context} {now : Instant} {α : Type}

/-- A list without sections, with a row for each of some things. -/
theorem FlowStep.offers_choices {body label : String} {l : List α} {sel : α → Selection}
    {title : α → String} {description : α → Option String} (nodup : (l.map sel).Nodup)
    (some_ : ¬ l.isEmpty = true) (le : l.length ≤ Occurrence.maxRows)
    (accepts : ∀ a ∈ l, v.Accepts t c (sel a)) :
    (FlowStep.choices body label
      (l.map fun a => (sel a).row (title a) (description a))).Offers v t c := by
  intro m hm
  obtain rfl := FlowMessage.list.inj (List.mem_singleton.1 hm)
  refine ⟨l.map sel, ⟨?_, nodup, ?_, ?_⟩, ?_⟩
  · simp [ListMessage.rows, Selection.row]
  · rw [List.length_map, List.length_pos_iff]
    simpa using some_
  · rw [List.length_map]
    exact le
  · intro x hx
    obtain ⟨a, ha, rfl⟩ := List.mem_map.1 hx
    exact accepts a ha

/-- As many of some things as a list shows. -/
theorem FlowStep.offers_take {body label : String} {l : List α} {sel : α → Selection}
    {title : α → String} {description : α → Option String} (nodup : (l.map sel).Nodup)
    (some_ : ¬ l.isEmpty = true) (accepts : ∀ a ∈ l, v.Accepts t c (sel a)) :
    (FlowStep.choices body label ((l.take Occurrence.maxRows).map fun a =>
      (sel a).row (title a) (description a))).Offers v t c := by
  refine offers_choices ?_ ?_ (List.length_take_le _ _) fun a ha =>
    accepts a (List.mem_of_mem_take ha)
  · rw [List.map_take]
    exact nodup.sublist (List.take_sublist _ _)
  · cases l with
    | nil => exact absurd rfl some_
    | cons a r => simp [Occurrence.maxRows]

/-- Things with different keys are selected differently if a selection tells the key. -/
theorem nodup_map_of_key {κ : Type} {l : List α} {key : α → κ} (h : (l.map key).Nodup)
    {sel : α → Selection} (hsel : ∀ a b, sel a = sel b → key a = key b) : (l.map sel).Nodup := by
  rw [List.Nodup, List.pairwise_map] at h ⊢
  exact h.imp fun {a b} hne hab => hne (hsel a b hab)

namespace BookingTables

open FlowStep

/-- Occurrences are selected differently if a selection tells the slot and the date. -/
theorem nodup_map_of_times (w : t.WellNumbered) {times : List Occurrence} (nodup : times.Nodup)
    (slots : ∀ o ∈ times, o.slot ∈ t.slots) {sel : SlotId → Date → Selection}
    (hsel : ∀ i d i' d', sel i d = sel i' d' → i = i' ∧ d = d') :
    (times.map fun o => sel o.slot.id o.date).Nodup := by
  refine nodup.map_on fun o ho o' ho' h => ?_
  obtain ⟨hid, hdate⟩ := hsel _ _ _ _ h
  have hslot : o.slot = o'.slot :=
    List.inj_on_of_nodup_map w.nodup_slots (slots o ho) (slots o' ho') (by rw [hid])
  cases o
  cases o'
  exact congrArg₂ Occurrence.mk hslot hdate

theorem WellNumbered.nodup_openTimes (w : t.WellNumbered) (staff : StaffId)
    (configured : Option UInt32) (excluding : Option BookingId) :
    (t.openTimes v staff configured excluding).Nodup :=
  BookingTables.nodup_openTimes v staff configured excluding w.nodup_slots.of_map

/-! ## Each list -/

theorem offers_startBooking (w : t.WellNumbered) (id : NodeId) (settings : BookAppointment) :
    t.Yields now (v.startBooking id settings) c fun step c' t' => step.Offers v t' c' := by
  unfold Visit.startBooking
  refine yields_clear (yields_read rfl ?_)
  split
  · exact yields_pure ((listsNothing_text _ _).offers v _ _)
  · rename_i some_
    refine yields_keep (yields_pure (offers_take ?_ some_ fun d hd => ⟨_, rfl, fun now => ?_⟩))
    · exact nodup_map_of_key (w.nodup_departments.sublist (List.filter_sublist.map _))
        fun a b h => congrArg DepartmentId.number (Selection.department.inj h)
    · obtain ⟨hmem, hp⟩ := List.mem_filter.1 hd
      simp only [Bool.and_eq_true, beq_iff_eq] at hp
      exact accepts_selectDepartment w hmem hp.2 hp.1

theorem offers_selectDepartment (w : t.WellNumbered) {p : BookingProgress}
    {settings : BookAppointment} (flow : p.flow = .book settings) (id : DepartmentId) :
    t.Yields now (v.selectDepartment p settings id) c
      fun o c' t' => ∀ step, o = some step → step.Offers v t' c' := by
  unfold Visit.selectDepartment
  refine yields_read rfl ?_
  split
  · rename_i department _
    refine yields_read rfl ?_
    split
    · exact yields_clear (yields_some ((listsNothing_text _ _).offers v _ _))
    · rename_i some_
      refine yields_keep (yields_some ?_)
      refine offers_take ?_ some_ fun s hs => ⟨_, rfl, fun now => ?_⟩
      · exact nodup_map_of_key (w.nodup_staff.sublist (List.filter_sublist.map _))
          fun a b h => congrArg StaffId.number (Selection.staff.inj h)
      · obtain ⟨hmem, hp⟩ := List.mem_filter.1 hs
        simp only [Bool.and_eq_true, beq_iff_eq] at hp
        -- What is kept waits for a member of staff, whatever the step before was.
        show t.Yields now (v.select _ p.flow .selectStaff (.staff s.id)) _ _
        rw [flow]
        exact accepts_selectStaff w hmem hp.2 hp.1.1 (congrArg some hp.1.2)
  · exact yields_pure nofun

theorem offers_selectStaff (w : t.WellNumbered) {p : BookingProgress}
    {settings : BookAppointment} (flow : p.flow = .book settings) (id : StaffId) :
    t.Yields now (v.selectStaff p settings id) c
      fun o c' t' => ∀ step, o = some step → step.Offers v t' c' := by
  unfold Visit.selectStaff
  refine yields_read rfl ?_
  split
  · rename_i staff _
    split
    · exact yields_pure nofun
    · refine yields_openTimes ?_
      split
      · exact yields_clear (yields_some ((listsNothing_text _ _).offers v _ _))
      · rename_i some_
        refine yields_keep (yields_some ?_)
        refine offers_choices ?_ some_ (length_openTimes_le _ _ _ _) fun o ho =>
          ⟨_, rfl, fun now => ?_⟩
        · exact nodup_map_of_times w (w.nodup_openTimes _ _ _) (fun o ho => (mem_openTimes ho).1)
            fun _ _ _ _ h => Selection.slot.inj h
        · obtain ⟨hslot, account, same, active, occurs, today⟩ := mem_openTimes ho
          show t.Yields now (v.select _ p.flow .selectSlot (.slot o.slot.id o.date)) _ _
          rw [flow]
          exact accepts_selectSlot w hslot active account
            (Visit.fits_iff.2 ⟨congrArg some same.symm, occurs, today⟩)
  · exact yields_pure nofun

theorem offers_startReschedule (w : t.WellNumbered) {p : BookingProgress}
    {settings : CheckBookings} (flow : p.flow = .check settings) (id : BookingId) :
    t.Yields now (v.startReschedule p settings id) c
      fun o c' t' => ∀ step, o = some step → step.Offers v t' c' := by
  unfold Visit.startReschedule
  refine yields_ownBooking? ?_
  split
  · rename_i b hb
    have own := own_of_ownBooking? hb
    refine yields_openTimes ?_
    dsimp only
    split
    · exact yields_clear (yields_some ((listsNothing_text _ _).offers v _ _))
    · rename_i some_
      refine yields_keep (yields_some ?_)
      refine offers_choices ?_ some_ ?_ fun o ho => ⟨_, rfl, fun now => ?_⟩
      · exact nodup_map_of_times w ((w.nodup_openTimes _ _ _).filter _)
          (fun o ho => (mem_openTimes (List.mem_of_mem_filter ho)).1)
          fun _ _ _ _ h => Selection.newSlot.inj h
      · exact Nat.le_trans (List.length_filter_le _ _) (length_openTimes_le _ _ _ _)
      · obtain ⟨hslot, account, same, active, occurs, today⟩ :=
          mem_openTimes (List.mem_of_mem_filter ho)
        show t.Yields now (v.select _ p.flow .selectNewSlot (.newSlot o.slot.id o.date)) _ _
        rw [flow]
        simp only [Visit.select]
        exact accepts_selectNewSlot w own rfl hslot active account
          (Visit.fits_iff.2 ⟨congrArg some same.symm, occurs, today⟩)
  · exact yields_pure nofun

/-! ## The bookings of a participant -/

theorem mem_upcoming {account : AccountId} {phone : String} {date : Date} {b : Booking} :
    b ∈ t.upcoming account phone date ↔ b ∈ t.bookings ∧ b.accountId = account
      ∧ b.phone = phone ∧ b.status = .confirmed ∧ date ≤ b.date := by
  unfold upcoming
  rw [List.mem_mergeSort, List.mem_filter]
  simp only [Bool.and_eq_true, beq_iff_eq, decide_eq_true_eq, and_assoc]

theorem WellNumbered.nodup_upcoming (w : t.WellNumbered) (account : AccountId) (phone : String)
    (date : Date) : ((t.upcoming account phone date).map (·.id.number)).Nodup := by
  unfold upcoming
  rw [((List.mergeSort_perm _ _).map _).nodup_iff]
  exact w.nodup_bookings.sublist (List.filter_sublist.map _)

/-- What a booking is listed with. -/
def selectionsOf (settings : CheckBookings) (b : Booking) : List Selection :=
  (if settings.allowReschedule then [.reschedule b.id] else [])
    ++ if settings.allowCancel then [.cancel b.id] else []

theorem map_id_bookingRows (settings : CheckBookings) (b : Booking) :
    (Visit.bookingRows settings b).map (·.id) = (selectionsOf settings b).map (·.rowId) := by
  unfold Visit.bookingRows selectionsOf
  cases settings.allowReschedule <;> cases settings.allowCancel <;> rfl

theorem length_selectionsOf (settings : CheckBookings) (b : Booking) :
    (selectionsOf settings b).length = Visit.rowsPerBooking settings := by
  unfold Visit.rowsPerBooking selectionsOf
  cases settings.allowReschedule <;> cases settings.allowCancel <;> rfl

theorem nodup_selectionsOf (settings : CheckBookings) (b : Booking) :
    (selectionsOf settings b).Nodup := by
  unfold selectionsOf
  cases settings.allowReschedule <;> cases settings.allowCancel <;> simp

theorem number_of_mem_selectionsOf {settings : CheckBookings} {b : Booking} {s : Selection}
    (h : s ∈ selectionsOf settings b) : s.number = b.id.number := by
  unfold selectionsOf at h
  rcases List.mem_append.1 h with h | h
  · split at h
    · rw [List.mem_singleton.1 h]
      rfl
    · cases h
  · split at h
    · rw [List.mem_singleton.1 h]
      rfl
    · cases h

/-- A booking that stands is listed with what can be done to it. -/
theorem accepts_selectionsOf (w : t.WellNumbered) {p : BookingProgress} {settings : CheckBookings}
    (hp : c.booking = some p) (hstep : p.step = .selectBooking) (flow : p.flow = .check settings)
    {b : Booking} (own : t.Own v b) {s : Selection} (h : s ∈ selectionsOf settings b) :
    v.Accepts t c s := by
  refine ⟨p, hp, fun now => ?_⟩
  rw [hstep, flow]
  unfold selectionsOf at h
  rcases List.mem_append.1 h with h | h
  · split at h
    · rename_i allowed
      rw [List.mem_singleton.1 h]
      show t.Yields now (if settings.allowReschedule = true then _ else _) _ _
      rw [if_pos allowed]
      exact accepts_startReschedule w own
    · cases h
  · split at h
    · rename_i allowed
      rw [List.mem_singleton.1 h]
      show t.Yields now (if settings.allowCancel = true then _ else _) _ _
      rw [if_pos allowed]
      exact accepts_cancel w own
    · cases h

/-- Bookings with what can be done to each. -/
theorem offers_bookings {settings : CheckBookings} {body label : String} {l : List Booking}
    (nodup : (l.map (·.id.number)).Nodup) (some_ : l ≠ [])
    (actions : 0 < Visit.rowsPerBooking settings)
    (le : l.length * Visit.rowsPerBooking settings ≤ Occurrence.maxRows)
    (accepts : ∀ b ∈ l, ∀ s ∈ selectionsOf settings b, v.Accepts t c s) :
    (listing body label (l.map fun b => ⟨some b.label, Visit.bookingRows settings b⟩)).Offers
      v t c := by
  intro m hm
  obtain rfl := FlowMessage.list.inj (List.mem_singleton.1 hm)
  have length : (l.flatMap (selectionsOf settings)).length
      = l.length * Visit.rowsPerBooking settings := by
    simp [List.length_flatMap, length_selectionsOf]
  refine ⟨l.flatMap (selectionsOf settings), ⟨?_, ?_, ?_, ?_⟩, fun s hs => ?_⟩
  · simp [ListMessage.rows, List.flatMap_map, List.map_flatMap, map_id_bookingRows]
  · refine List.nodup_flatMap.2 ⟨fun b _ => nodup_selectionsOf settings b, ?_⟩
    refine (List.pairwise_map.1 nodup).imp fun {b b'} hne s hs hs' => hne ?_
    rw [← number_of_mem_selectionsOf hs, number_of_mem_selectionsOf hs']
  · rw [length]
    exact Nat.mul_pos (List.length_pos_iff.2 some_) actions
  · rw [length]
    exact le
  · obtain ⟨b, hb, hs⟩ := List.mem_flatMap.1 hs
    exact accepts b hb s hs

theorem offers_startCheck (w : t.WellNumbered) (id : NodeId) (settings : CheckBookings) :
    t.Yields now (v.startCheck id settings) c fun step c' t' => step.Offers v t' c' := by
  unfold Visit.startCheck
  refine yields_clear (yields_read rfl ?_)
  split
  · exact yields_pure ((listsNothing_text _ _).offers v _ _)
  · rename_i some_
    split
    · exact yields_pure ((listsNothing_text _ _).offers v _ _)
    · rename_i none_
      -- One row or two for each booking, so that five bookings at least are shown.
      have actions : 0 < Visit.rowsPerBooking settings ∧ Visit.rowsPerBooking settings ≤ 2 := by
        unfold Visit.rowsPerBooking
        revert none_
        cases settings.allowCancel <;> cases settings.allowReschedule <;> simp
      refine yields_keep (yields_pure (offers_bookings ?_ ?_ actions.1 ?_ fun b hb s hs => ?_))
      · rw [List.map_take]
        exact (w.nodup_upcoming _ _ _).sublist (List.take_sublist _ _)
      · have rows : 0 < Occurrence.maxRows / Visit.rowsPerBooking settings :=
          Nat.div_pos (Nat.le_trans actions.2 (by decide)) actions.1
        rw [Ne, List.take_eq_nil_iff, not_or]
        exact ⟨Nat.ne_of_gt rows, fun none_ => some_ (List.isEmpty_iff.2 none_)⟩
      · exact Nat.le_trans (Nat.mul_le_mul_right _ (List.length_take_le _ _))
          (Nat.div_mul_le_self _ _)
      · obtain ⟨hmem, account, phone, stands, -⟩ := mem_upcoming.1 (List.mem_of_mem_take hb)
        exact accepts_selectionsOf w rfl rfl rfl ⟨hmem, account, phone, stands⟩ hs

/-! ## Steps that list nothing -/

theorem listsNothing_selectSlot {p : BookingProgress} {settings : BookAppointment} {id : SlotId}
    {date : Date} : t.Yields now (v.selectSlot p settings id date) c
      fun o _ _ => ∀ step, o = some step → step.ListsNothing := by
  unfold Visit.selectSlot
  refine yields_read rfl ?_
  split
  · split
    · refine yields_read rfl ?_
      split
      · dsimp only
        split
        · exact yields_complete.bind fun step c' t' h => yields_some h
        · exact yields_keepQuestions (yields_keep (yields_some (listsNothing_text _ _)))
      · exact yields_clear (yields_some (listsNothing_text _ _))
    · exact yields_pure nofun
  · exact yields_pure nofun

theorem listsNothing_cancel {settings : CheckBookings} {id : BookingId} :
    t.Yields now (v.cancel settings id) c
      fun o _ _ => ∀ step, o = some step → step.ListsNothing := by
  unfold Visit.cancel
  refine yields_ownBooking? ?_
  split
  · refine yields_ask ?_
    split
    · exact yields_clear (yields_announce fun resolved c' => yields_some (listsNothing_text _ _))
    · exact yields_pure nofun
  · exact yields_pure nofun

theorem listsNothing_selectNewSlot {p : BookingProgress} {settings : CheckBookings} {id : SlotId}
    {date : Date} : t.Yields now (v.selectNewSlot p settings id date) c
      fun o _ _ => ∀ step, o = some step → step.ListsNothing := by
  unfold Visit.selectNewSlot
  split
  · refine yields_read rfl ?_
    split
    · split
      · refine yields_ownBooking? ?_
        split
        · refine yields_ask (yields_clear ?_)
          split
          · exact yields_pure nofun
          · exact yields_some (listsNothing_text _ _)
          · exact yields_announce fun resolved c' => yields_some (listsNothing_text _ _)
        · exact yields_pure nofun
      · exact yields_pure nofun
    · exact yields_pure nofun
  · exact yields_pure nofun

theorem listsNothing_takeAnswer {p : BookingProgress} {settings : BookAppointment}
    {q : Questionnaire} : t.Yields now (v.takeAnswer p settings q) c
      fun step _ _ => step.ListsNothing := by
  unfold Visit.takeAnswer
  split
  · exact yields_keep (yields_keepQuestions (yields_pure (listsNothing_text _ _)))
  · exact yields_complete

/-! ## Calls -/

theorem offers_select (w : t.WellNumbered) (p : BookingProgress) (s : Selection) :
    t.Yields now (v.select p p.flow p.step s) c
      fun o c' t' => ∀ step, o = some step → step.Offers v t' c' := by
  have nothing {w : BookingWork (Option FlowStep)}
      (h : t.Yields now w c fun o _ _ => ∀ step, o = some step → step.ListsNothing) :
      t.Yields now w c fun o c' t' => ∀ step, o = some step → step.Offers v t' c' :=
    h.mono fun o c' t' h step hstep => (h step hstep).offers v t' c'
  unfold Visit.select
  split
  · rename_i flow _
    exact offers_selectDepartment w flow _
  · rename_i flow _
    exact offers_selectStaff w flow _
  · exact nothing listsNothing_selectSlot
  · split
    · exact nothing listsNothing_cancel
    · exact yields_pure nofun
  · rename_i flow _
    split
    · exact offers_startReschedule w flow _
    · exact yields_pure nofun
  · exact nothing listsNothing_selectNewSlot
  · exact yields_pure nofun

theorem yields_takeSelection {p : BookingProgress} {s : Selection}
    {post : Option FlowStep → Context → BookingTables → Prop}
    (h : t.Yields now (v.select p p.flow p.step s) c post) :
    t.Yields now (v.takeSelection p s) c fun r c' t' => ∃ o c'', post o c'' t'
      ∧ (∀ step, o = some step → r = .handled step ∧ c' = c'') ∧ (o = none → r = .rejected) := by
  unfold Visit.takeSelection
  refine h.bind fun o c' t' h => ?_
  cases o with
  | some step =>
    refine yields_pure ⟨_, c', h, ?_, nofun⟩
    rintro _ ⟨⟩
    exact ⟨rfl, rfl⟩
  | none => exact yields_clear (yields_pure ⟨_, c', h, nofun, fun _ => rfl⟩)

theorem offers_takeReply (w : t.WellNumbered) (id : String) :
    t.Yields now (v.takeReply id) c fun r c' t' => ∀ step, r = .handled step →
      step.Offers v t' c' := by
  unfold Yields
  rw [Visit.takeReply_apply]
  split
  · rename_i s p _ _
    refine (yields_takeSelection (offers_select w p s)).mono fun r c' t' h step hr => ?_
    obtain ⟨o, c'', offers, some_, none_⟩ := h
    cases o with
    | none =>
      rw [none_ rfl] at hr
      cases hr
    | some step' =>
      obtain ⟨hr', rfl⟩ := some_ step' rfl
      obtain rfl := ReplyHandling.handled.inj (hr'.symm.trans hr)
      exact offers step' rfl
  · exact ⟨_, c, t, rfl, nofun⟩

theorem listsNothing_takeText (text : String) :
    t.Yields now (v.takeText text) c fun o _ _ => ∀ step, o = some step → step.ListsNothing := by
  unfold Yields
  rw [Visit.takeText_apply]
  split
  · split
    · exact listsNothing_takeAnswer.bind fun step c' t' h => yields_some h
    · exact ⟨_, c, t, rfl, nofun⟩
  · exact ⟨_, c, t, rfl, nofun⟩

/-- Whatever a call lists is accepted next. -/
theorem offers_work (w : t.WellNumbered) (call : FlowCall) :
    t.Yields now call.work c fun r c' t' => ∀ step, r = .handled step →
      step.Offers call.visit t' c' := by
  have handled {v : Visit} {work : BookingWork FlowStep}
      (h : t.Yields now work c fun step c' t' => step.Offers v t' c') :
      t.Yields now (work >>= fun step => pure (ReplyHandling.handled step)) c fun r c' t' =>
        ∀ step, r = .handled step → step.Offers v t' c' := by
    refine h.bind fun step c' t' offers => yields_pure ?_
    rintro _ ⟨⟩
    exact offers
  cases call with
  | book v id settings => exact handled (offers_startBooking w id settings)
  | check v id settings => exact handled (offers_startCheck w id settings)
  | reply v id => exact offers_takeReply w id
  | text v body =>
    refine (listsNothing_takeText body).bind fun o c' t' h => yields_pure fun step hstep => ?_
    cases o with
    | none => cases hstep
    | some step' =>
      obtain rfl := ReplyHandling.handled.inj hstep
      exact (h step' rfl).offers v t' c'

/-- A reply with the row of a selection that is accepted leads to a step. -/
theorem handled_of_accepts {s : Selection} (accepts : v.Accepts t c s) (plain : s.HasPlainYear) :
    t.Yields now (v.takeReply s.rowId) c fun r _ _ => ∃ step, r = .handled step := by
  obtain ⟨p, hp, leads⟩ := accepts
  unfold Yields
  rw [Visit.takeReply_apply, Selection.parse?_rowId plain, hp]
  refine (yields_takeSelection (leads now)).mono fun r c' t' h => ?_
  obtain ⟨o, c'', isSome, some_, -⟩ := h
  obtain ⟨step, rfl⟩ := Option.isSome_iff_exists.1 isSome
  exact ⟨step, (some_ step rfl).1⟩

end BookingTables

namespace FlowCall

open BookingTables

/-- Whatever was done to empty tables, with fewer than `2 ^ 63` numbers handed out, and whatever
the context: a list that a call sends has one to ten rows with different identifiers, and while the
tables stay as they are, a reply with any of them leads to a step, as long as its date has a year of
four digits. -/
theorem offers_accepted (changes : List BookingChange)
    (few : (empty.changeAll changes).rowCount < 2 ^ 63) (now : Instant) (call : FlowCall)
    (c : Context) {step : FlowStep} {l : ListMessage} :
    let after := call.run (BookingTables.reply now) (c, empty.changeAll changes)
    after.1.1 = .ok (.handled step) → .list l ∈ step.messages →
      (1 ≤ l.rows.length ∧ l.rows.length ≤ 10) ∧ (l.rows.map (·.id)).Nodup
        ∧ ∀ row ∈ l.rows, ∃ s : Selection, row.id = s.rowId ∧ (s.HasPlainYear → ∀ now',
          ∃ next, ((FlowCall.reply call.visit row.id).run (BookingTables.reply now')
            (after.1.2, after.2)).1.1 = .ok (.handled next)) := by
  intro after handled listed
  have w := wellNumbered_changeAll changes wellNumbered_empty few
  obtain ⟨r, c', t', run, offers⟩ : (empty.changeAll changes).Yields now call.work c
      fun r c' t' => ∀ step, r = .handled step → step.Offers call.visit t' c' :=
    offers_work w call
  have left : after = ((.ok r, c'), t') := run
  rw [left] at handled
  obtain ⟨offered, offers, accepts⟩ := offers step (Except.ok.inj handled) l listed
  have length : l.rows.length = offered.length := by
    simpa using congrArg List.length offers.rows
  refine ⟨⟨length ▸ offers.pos, length ▸ offers.le⟩, ?_, fun row hrow => ?_⟩
  · rw [offers.rows]
    exact offers.nodup.map fun s s' => Selection.rowId_injective
  · have hid : row.id ∈ l.rows.map (·.id) := List.mem_map.2 ⟨row, hrow, rfl⟩
    rw [offers.rows] at hid
    obtain ⟨s, hs, hid⟩ := List.mem_map.1 hid
    refine ⟨s, hid.symm, fun plain now' => ?_⟩
    obtain ⟨r', c'', t'', run', next, rfl⟩ : t'.Yields now' (call.visit.takeReply s.rowId) c'
        fun r _ _ => ∃ step, r = .handled step := handled_of_accepts (accepts s hs) plain
    have replied : (FlowCall.reply call.visit s.rowId).run (BookingTables.reply now') (c', t')
        = ((.ok (.handled next), c''), t'') := run'
    refine ⟨next, ?_⟩
    rw [left, ← hid, replied]

end FlowCall

end

/-! The one time of a member of staff, which is listed and replied to. -/

namespace OneTime

open Practice

def changes : List BookingChange := staffed ++ [.addSlot account ⟨2⟩ .monday noon 1]

def call : FlowCall :=
  .reply ⟨account, "919800000001", monday, .ofSecond 32400, 1⟩ "booking_staff_2"

def context : Context :=
  let started : BookingProgress := .start "book" (.book .standard) .selectStaff
  ⟨[], some { started with departmentId := some ⟨1⟩ }, none⟩

def row : ListRow := ⟨"booking_slot_3_20260309", "Mon 09 Mar 12:00", none⟩

def list : ListMessage :=
  ⟨none, BookAppointment.standard.slotPrompt, none, "Times", [⟨none, [row]⟩]⟩

def after : (Except BookingError ReplyHandling × Context) × BookingTables :=
  call.run (BookingTables.reply now) (context, BookingTables.empty.changeAll changes)

end OneTime

open OneTime Practice in
theorem FlowCall.accepted_oneTime : list.rows = [row]
    ∧ ∃ next, ((FlowCall.reply call.visit row.id).run (BookingTables.reply now)
      (after.1.2, after.2)).1.1 = .ok (.handled next) := by
  have handled : after.1.1 = .ok (.handled ⟨[.list list], .awaitReply⟩) := by decide +kernel
  have id : row.id = (Selection.slot ⟨3⟩ monday).rowId := by decide +kernel
  have plain : (Selection.slot ⟨3⟩ monday).HasPlainYear := by
    rintro _ ⟨⟩
    unfold Date.HasPlainYear
    decide +kernel
  have few : (BookingTables.empty.changeAll changes).rowCount < 2 ^ 63 := by decide +kernel
  obtain ⟨-, -, accepted⟩ := FlowCall.offers_accepted changes few now call context handled
    (List.mem_singleton_self _)
  obtain ⟨s, hs, accepted⟩ := accepted row (by decide)
  obtain rfl := Selection.rowId_injective (hs.symm.trans id)
  exact ⟨rfl, accepted plain now⟩

end Dialogue
