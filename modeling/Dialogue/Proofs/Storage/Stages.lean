import Dialogue.Proofs.Storage.Sessions
import Dialogue.Proofs.Storage.Transactions

/-!
# How far a call has come

A call that creates or moves a booking goes through stages: it is in a transaction, holds the row of
a slot, has a claim to a place, has written. What it can ask at a stage, and where the answers lead,
is said rule by rule (`Staged`): only a claim lets it write, and only a count that left room for one
more gives it a claim. All three calls keep to the rules (`staged_start`).
-/

namespace Dialogue

variable {d : BookingSchema} {α β ε : Type}

/-- A claim to a place of an active slot on a date, for a new booking or one that moves. -/
structure Claim (d : BookingSchema) where
  slot : TimeSlot
  date : Date
  moved : Option BookingId
  mem : slot ∈ d.slots
  active : slot.isActive = true
  occurs : slot.occursOn date = true
  room : 0 < slot.capacity.toNat

/-- How far a call has come. -/
inductive Stage (d : BookingSchema) where
  | outside
  | inside
  | held (slot : TimeSlot) (mem : slot ∈ d.slots) (active : slot.isActive = true)
  | claimed (claim : Claim d)
  | written (claim : Claim d)

/-- What the row of a slot says when it is locked. -/
def TimeSlot.locked (s : TimeSlot) : Storage.LockedSlot :=
  ⟨s.staffId, Statement.weekdayNumber s.weekday, s.startTime, .ofNat s.capacity.toNat⟩

theorem Storage.readWeekday_weekdayNumber (w : Weekday) :
    readWeekday (Statement.weekdayNumber w) = .ok w := by
  cases w <;> rfl

theorem Statement.weekdayNumber_injective : Function.Injective weekdayNumber := by
  intro v w h
  have same := congrArg Storage.readWeekday h
  rw [Storage.readWeekday_weekdayNumber, Storage.readWeekday_weekdayNumber] at same
  exact Except.ok.inj same

/-- What a slot says serves a time exactly if the slot begins then and recurs on the date. -/
theorem TimeSlot.serves_locked {s : TimeSlot} {staff : StaffId} {date : Date} {time : TimeOfDay} :
    s.locked.serves staff date time = true
      ↔ s.staffId = staff ∧ s.occursOn date = true ∧ s.startTime = time := by
  have weekday : Statement.weekdayNumber s.weekday = Statement.weekdayNumber date.weekday
      ↔ s.occursOn date = true := by
    rw [occursOn, beq_iff_eq]
    exact ⟨fun h => (Statement.weekdayNumber_injective h).symm, fun h => congrArg _ h.symm⟩
  simp only [Storage.LockedSlot.serves, locked, Bool.and_eq_true, beq_iff_eq, weekday, and_assoc]

/-- What a statement brings that counted rows. -/
def ResultSet.counted (n : Int64) : ResultSet := .found [[("count", .bigint n)]]

/-- What a program can ask at a stage, so that whatever it is answered it goes on in this way, and
ends at a stage with a result that `post` relates. A failure leads outside. -/
inductive Staged (post : Stage d → α → Prop) :
    Stage d → Program DatabaseRequest DatabaseRequest.Answer α → Prop
  | done {st : Stage d} {a : α} : post st a → Staged post st (.done a)
  | start {next} : (∀ m, Staged post .outside (next (.error m))) →
    Staged post .inside (next (.ok ())) → Staged post .outside (.ask (.transaction .start) next)
  | stop {st : Stage d} {t : TransactionStep} {next} : t ≠ .start →
    (∀ a, Staged post .outside (next a)) → Staged post st (.ask (.transaction t) next)
  | cancel {account : AccountId} {id : BookingId} {next} : (∀ a, Staged post .outside (next a)) →
    Staged post .outside (.ask (.execute (.cancelBooking account id)) next)
  | lockBooking {account : AccountId} {id : BookingId} {next} :
    (∀ m, Staged post .outside (next (.error m))) → (∀ r, Staged post .inside (next (.ok r))) →
    Staged post .inside (.ask (.execute (.lockBooking account id)) next)
  | lockSlot {id : SlotId} {next} : (∀ m, Staged post .outside (next (.error m))) →
    Staged post .inside (next (.ok (.found []))) →
    (∀ slot mem active, slot.id = id →
      Staged post (.held slot mem active) (next (.ok (.found [slot.lockedRow])))) →
    Staged post .inside (.ask (.execute (.lockSlot id)) next)
  | count {slot : TimeSlot} {mem : slot ∈ d.slots} {active : slot.isActive = true} {date : Date}
      {excluding : Option BookingId} {next} :
    slot.occursOn date = true → (∀ m, Staged post .outside (next (.error m))) →
    (∀ n : Int64, slot.capacity.toNat ≤ n.toInt → Staged post .inside (next (.ok (.counted n)))) →
    (∀ (n : Int64) (c : Claim d), c.slot = slot → c.date = date → c.moved = excluding →
      0 ≤ n.toInt → n.toInt < slot.capacity.toNat →
      Staged post (.claimed c) (next (.ok (.counted n)))) →
    Staged post (.held slot mem active)
      (.ask (.execute (.countConfirmed slot.staffId date slot.startTime excluding)) next)
  | insert {c : Claim d} {r : BookingRequest} {next} : c.moved = none →
    r.staffId = c.slot.staffId → r.date = c.date → r.time = c.slot.startTime →
    (∀ m, Staged post .outside (next (.error m))) →
    (∀ x, Staged post (.written c) (next (.ok x))) →
    Staged post (.claimed c) (.ask (.execute (.insertBooking r)) next)
  | move {c : Claim d} {account : AccountId} {id : BookingId} {slot : TimeSlot} {next} :
    c.moved = some id → slot.staffId = c.slot.staffId → slot.startTime = c.slot.startTime →
    (∀ m, Staged post .outside (next (.error m))) →
    (∀ x, Staged post (.written c) (next (.ok x))) →
    Staged post (.claimed c) (.ask (.execute (.moveBooking account id slot c.date)) next)

namespace Staged

theorem bind {m : Stage d → α → Prop} {post : Stage d → β → Prop} {st : Stage d}
    {p : Program DatabaseRequest DatabaseRequest.Answer α}
    {f : α → Program DatabaseRequest DatabaseRequest.Answer β} (hp : Staged m st p)
    (hf : ∀ st a, m st a → Staged post st (f a)) : Staged post st (p.bind f) := by
  induction hp with
  | done h => exact hf _ _ h
  | start _ _ failed started => exact .start failed started
  | stop ht _ ih => exact .stop ht ih
  | cancel _ ih => exact .cancel ih
  | lockBooking _ _ failed locked => exact .lockBooking failed locked
  | lockSlot _ _ _ failed none some => exact .lockSlot failed none some
  | count occurs _ _ _ failed full room => exact .count occurs failed full room
  | insert new staff date time _ _ failed written =>
    exact .insert new staff date time failed written
  | move moved staff time _ _ failed written => exact .move moved staff time failed written

theorem mono {post post' : Stage d → α → Prop} {st : Stage d}
    {p : Program DatabaseRequest DatabaseRequest.Answer α} (hp : Staged post st p)
    (h : ∀ st a, post st a → post' st a) : Staged post' st p := by
  rw [← p.bind_done]
  exact hp.bind fun st a ha => .done (h st a ha)

end Staged

/-- Work at a stage keeps to what can be asked, and where it ends well, `post` relates the stage and
the result. -/
def Proceeds (st : Stage d) (w : StoreWork ε α) (post : Stage d → α → Prop) : Prop :=
  Staged (fun st' r => ∀ a, r = .ok a → post st' a) st w.run

namespace Proceeds

open DatabaseWork Storage

variable {st : Stage d} {post : Stage d → α → Prop}

theorem pure {a : α} (h : post st a) : Proceeds st (Pure.pure a : StoreWork ε α) post := by
  refine .done fun a' ha => ?_
  cases ha
  exact h

theorem settled {r : Except ε α} (h : ∀ a, r = .ok a → post st a) :
    Proceeds st (settled r) post := .done h

theorem bind {w : StoreWork ε α} {f : α → StoreWork ε β} {post : Stage d → β → Prop}
    {m : Stage d → α → Prop} (hw : Proceeds st w m)
    (hf : ∀ st a, m st a → Proceeds st (f a) post) : Proceeds st (w >>= f) post := by
  refine Staged.bind hw ?_
  rintro st' (e | a) hr
  · refine .done fun b hb => ?_
    cases hb
  · exact hf st' a (hr a rfl)

theorem adapt {δ : Type} {f : ε → δ} {w : StoreWork ε α} (hw : Proceeds st w post) :
    Proceeds st (ExceptT.adapt f w) post := by
  refine Staged.bind hw ?_
  rintro st' (e | a) hr
  · refine .done fun a ha => ?_
    cases ha
  · exact .done fun a' ha => hr a' (by cases ha; rfl)

theorem tryCatch {w : StoreWork ε α} {handler : ε → StoreWork ε α} (hw : Proceeds st w post)
    (hh : ∀ st e, Proceeds st (handler e) post) :
    Proceeds st (MonadExcept.tryCatch w handler) post := by
  refine Staged.bind hw ?_
  rintro st' (e | a) hr
  · exact hh st' e
  · exact .done hr

theorem trivial_done {r : Except ε α} :
    Staged (fun (_ : Stage d) (r : Except ε α) => ∀ a, r = .ok a → True) st (.done r) :=
  .done fun _ _ => trivial

theorem step {t : TransactionStep} (ht : t ≠ .start) :
    Proceeds st (step t) fun _ _ => True := .stop ht fun _ => trivial_done

theorem step_start : Proceeds (d := d) .outside (DatabaseWork.step .start) fun st _ =>
    st = .inside := by
  refine .start (fun m => .done fun a ha => ?_) (.done fun a ha => rfl)
  cases ha

/-- Whatever the work in a transaction comes to, ending it leads outside. -/
theorem inTransaction {w : DatabaseWork (Closing × α)}
    (hw : Proceeds (d := d) .inside w fun _ _ => True) :
    Proceeds (d := d) .outside (inTransaction w) fun _ _ => True := by
  refine step_start.bind ?_
  rintro _ - rfl
  refine tryCatch (hw.bind fun st ca _ => ?_) fun st e => .stop (by simp) fun _ => trivial_done
  refine (step ?_).bind fun st _ _ => pure trivial
  cases ca.1 <;> simp [Closing.step]

/-! ## Taking a place -/

variable {slot : SlotId} {staff : StaffId} {date : Date} {time : TimeOfDay}
  {excluding : Option BookingId}

theorem lockSlot : Proceeds (d := d) .inside (fetchOptional (.lockSlot slot) LockedSlot.row)
    fun st locked? => ∀ locked, locked? = some locked → ∃ s mem active,
      st = .held s mem active ∧ locked = s.locked := by
  refine Staged.lockSlot (fun m => .done fun a ha => ?_) (.done fun a ha => ?_)
    fun s mem active _ => .done fun a ha => ?_
  · cases ha
  · cases ha
    intro locked h
    cases h
  · cases ha
    intro locked h
    cases h
    exact ⟨s, mem, active, rfl, rfl⟩

theorem lockBooking {account : AccountId} {id : BookingId} {read : RowReader α} :
    Proceeds (d := d) .inside (fetchOptional (.lockBooking account id) read)
      fun st _ => st = .inside := by
  have locked : Proceeds (d := d) .inside (execute (.lockBooking account id))
      fun st _ => st = .inside := by
    refine Staged.lockBooking (fun m => .done fun a ha => ?_) fun r => .done fun _ _ => rfl
    cases ha
  refine locked.bind fun st r hst => ?_
  split
  · exact pure hst
  · exact bind (m := fun st _ => st = .inside) (settled fun _ _ => hst) fun _ _ h => pure h

theorem confirmedCount {s : TimeSlot} {mem : s ∈ d.slots} {active : s.isActive = true}
    (occurs : s.occursOn date = true) :
    Proceeds (.held s mem active) (confirmedCount s.staffId date s.startTime excluding)
      fun st existing => Availability.available ⟨existing, places s.locked.capacity⟩ = true →
        ∃ c : Claim d, st = .claimed c ∧ c.slot = s ∧ c.date = date ∧ c.moved = excluding := by
  have capacity : s.locked.capacity.toInt = s.capacity.toNat :=
    Int32.toInt_ofNat_of_lt (d.capacity_lt s mem)
  refine bind (m := fun st n => Availability.available ⟨count n, places s.locked.capacity⟩ = true
    → ∃ c : Claim d, st = .claimed c ∧ c.slot = s ∧ c.date = date ∧ c.moved = excluding) ?_
    fun st n room => pure room
  refine .count occurs (fun m => .done fun a ha => ?_) (fun n full => .done fun a ha => ?_)
    fun n c hs hd hm least room => .done fun a ha => ?_
  · cases ha
  · cases ha
    intro room
    have less := (available_iff.1 room).2
    omega
  · cases ha
    exact fun _ => ⟨c, rfl, hs, hd, hm⟩

/-- Room that is found under the lock is a claim. -/
theorem lockedAvailability :
    Proceeds (d := d) .inside (lockedAvailability slot staff date time excluding) fun st room =>
      room.available = true → ∃ c : Claim d, st = .claimed c ∧ c.slot.staffId = staff
        ∧ c.date = date ∧ c.slot.startTime = time ∧ c.moved = excluding := by
  refine lockSlot.bind fun st locked? held => ?_
  cases locked? with
  | none => exact pure fun h => absurd h (by decide)
  | some locked =>
    obtain ⟨s, mem, active, rfl, rfl⟩ := held locked rfl
    by_cases serves : s.locked.serves staff date time = true
    · simp only [serves, if_true]
      obtain ⟨rfl, occurs, rfl⟩ := TimeSlot.serves_locked.1 serves
      refine (confirmedCount occurs).bind fun st existing room => pure fun h => ?_
      obtain ⟨c, rfl, rfl, rfl, rfl⟩ := room h
      exact ⟨c, rfl, rfl, rfl, rfl, rfl⟩
    · simp only [serves]
      exact pure fun h => absurd h (by decide)

theorem writtenBooking {st : Stage d} {s : Statement}
    (written : Proceeds st (execute s) fun _ _ => True) :
    Proceeds st (writtenBooking s) fun _ _ => True := by
  refine bind (m := fun _ _ => True) (written.bind fun st r _ => ?_) fun _ _ _ => trivial_done
  split
  · exact trivial_done
  · exact trivial_done

/-- A claim lets the work write what it claims. -/
theorem placing {write : Statement} {wrap : Placement → α}
    (writes : ∀ c : Claim d, c.slot.staffId = staff → c.date = date → c.slot.startTime = time →
      c.moved = excluding → Proceeds (.claimed c) (execute write) fun _ _ => True) :
    Proceeds (d := d) .inside (placing slot staff date time excluding write wrap)
      fun _ _ => True := by
  refine lockedAvailability.bind fun st room claim => ?_
  by_cases hroom : room.available = true
  · simp only [hroom, if_true]
    obtain ⟨c, rfl, hstaff, hdate, htime, hmoved⟩ := claim hroom
    exact (writtenBooking (writes c hstaff hdate htime hmoved)).bind fun _ _ _ => pure trivial
  · simp only [hroom]
    exact pure trivial

theorem createBooking (r : BookingRequest) :
    Proceeds (d := d) .outside (createBooking r) fun _ _ => True := by
  rw [createBooking_eq]
  refine inTransaction (placing fun c hstaff hdate htime hmoved => ?_)
  exact Staged.insert hmoved hstaff.symm hdate.symm htime.symm (fun m => trivial_done)
    fun x => trivial_done

theorem rescheduleBooking (account : AccountId) (id : BookingId) (slot : TimeSlot) (date : Date) :
    Proceeds (d := d) .outside (rescheduleBooking account id slot date) fun _ _ => True := by
  rw [rescheduleBooking_eq]
  refine inTransaction (lockBooking.bind ?_)
  rintro _ (_ | held) rfl
  · exact pure trivial
  · refine placing fun c hstaff hdate htime hmoved => ?_
    subst hdate
    exact Staged.move hmoved hstaff.symm htime.symm (fun m => trivial_done) fun x => trivial_done

theorem cancelBooking (account : AccountId) (id : BookingId) :
    Proceeds (d := d) .outside (cancelBooking account id) fun _ _ => True :=
  bind (m := fun _ _ => True) (Staged.cancel fun _ => trivial_done) fun _ _ _ => pure trivial

end Proceeds

/-- Every call that changes bookings keeps to what can be asked. -/
theorem staged_start {q : BookingQuery} (h : q.changes = true) :
    Staged (fun _ _ => True) (Stage.outside (d := d)) (Session.start q).rest := by
  have answered : Proceeds (d := d) .outside (Storage.booking q) fun _ _ => True := by
    cases q with
    | create r => exact (Proceeds.createBooking r).adapt
    | reschedule account id slot date =>
      exact (Proceeds.rescheduleBooking account id slot date).adapt
    | cancel account id => exact (Proceeds.cancelBooking account id).adapt
    | _ => cases h
  exact answered.mono fun _ _ _ => trivial

/-! ## What an answer does -/

/-- The row is one that the claim is to: at its time, and of its number if it is moved. -/
structure Claim.Allows (c : Claim d) (b : Booking) : Prop where
  staff : b.staffId = c.slot.staffId
  date : b.date = c.date
  time : b.time = c.slot.startTime
  moved : c.moved = none ∨ c.moved = some b.id

theorem Claim.allows_inserted (c : Claim d) {r : BookingRequest} {id : BookingId} {now : Instant}
    (new : c.moved = none) (staff : r.staffId = c.slot.staffId) (date : r.date = c.date)
    (time : r.time = c.slot.startTime) : c.Allows (r.inserted id now) := by
  -- The request is taken apart, lest its time be compared with the one that is cut.
  obtain ⟨account, department, staff', slot, phone, name, date', time', answer₁, answer₂⟩ := r
  obtain rfl : staff' = c.slot.staffId := staff
  obtain rfl : date' = c.date := date
  obtain rfl : time' = c.slot.startTime := time
  exact ⟨rfl, rfl, d.startTime_eq c.slot c.mem, .inl new⟩

theorem Claim.allows_updated (c : Claim d) {b : Booking} {slot : TimeSlot}
    (moved : c.moved = some b.id) (staff : slot.staffId = c.slot.staffId)
    (time : slot.startTime = c.slot.startTime) : c.Allows (b.updated slot c.date) where
  staff := staff
  date := rfl
  time := (congrArg _ time).trans (d.startTime_eq c.slot c.mem)
  moved := .inr moved

namespace Stage

/-- What a connection has done at a stage. -/
def Fits : Stage d → Connection → Prop
  | outside, .inside _ => False
  | outside, _ => True
  | inside, .inside t => t.writes = []
  | held slot _ _, .inside t => t.writes = [] ∧ slot.id ∈ t.slots
  | claimed c, .inside t => t.writes = [] ∧ c.slot.id ∈ t.slots
  | written c, .inside t =>
    (t.writes = [] ∨ ∃ b, t.writes = [b] ∧ c.Allows b) ∧ c.slot.id ∈ t.slots
  | _, _ => False

/-- The slot whose row is held at a stage. -/
def slotId? : Stage d → Option SlotId
  | held slot _ _ => some slot.id
  | claimed c | written c => some c.slot.id
  | _ => none

/-- What is claimed at a stage. -/
def claim? : Stage d → Option (Claim d)
  | claimed c | written c => some c
  | _ => none

end Stage

open BookingTables (takes)

/-- What an answer can do to the stage of a call and to the rows that are committed. -/
inductive Change (rows : List Booking) (others : List Session) :
    Stage d → Stage d → List Booking → Prop
  | leave (st : Stage d) : Change rows others st .outside rows
  | stay (st : Stage d) : Change rows others st .inside rows
  | lock {slot : TimeSlot} {mem : slot ∈ d.slots} {active : slot.isActive = true} :
    Session.SlotFree others slot.id → Change rows others .inside (.held slot mem active) rows
  | claim {c : Claim d} :
    rows.countP (fun b => takes b c.slot.staffId c.date c.slot.startTime && some b.id != c.moved)
      < c.slot.capacity.toNat →
    Change rows others (.held c.slot c.mem c.active) (.claimed c) rows
  | write (c : Claim d) : Change rows others (.claimed c) (.written c) rows
  | commit {c : Claim d} {b : Booking} : c.Allows b →
    Change rows others (.written c) .outside (putBooking rows b)
  | cancel {b : Booking} : b.status = .cancelled →
    Change rows others .outside .outside (putBooking rows b)

theorem Transaction.writes_write (t : Transaction) (h : t.writes = []) (b : Booking) :
    (t.write b).writes = [b] := congrArg (· ++ [b]) h

section Answer

variable {post : Stage d → α → Prop} {st : Stage d} {c c' : Connection} {rows rows' : List Booking}
  {others : List Session}

/-- What a transaction leaves when it is committed is what was claimed, if anything was written. -/
theorem Change.of_commit {t : Transaction} (fits : st.Fits (.inside t)) :
    Change rows others st .outside (t.view rows) := by
  have nothing (h : t.writes = []) : Change rows others st .outside (t.view rows) := by
    rw [Transaction.view, h]
    exact .leave st
  cases st with
  | outside => exact fits.elim
  | inside => exact nothing fits
  | held => exact nothing fits.1
  | claimed => exact nothing fits.1
  | written c =>
    rcases fits.1 with h | ⟨b, h, allows⟩
    · exact nothing h
    · rw [Transaction.view, h]
      exact .commit allows

/-- A booking that is cancelled outside a transaction is cancelled at once. -/
theorem Change.of_cancel {account : AccountId} {id : BookingId} {r : ResultSet} {t : Transaction}
    (h : Executes d rows others .empty (.cancelBooking account id) r t) :
    Change (d := d) rows others .outside .outside (t.view rows) := by
  cases h with
  | noCancel => exact .leave _
  | cancel => exact .cancel rfl

/-- Inside a transaction, what is not refused is executed in it. -/
theorem Staged.answer_inside {t : Transaction} {s : Statement} {r : Except String ResultSet}
    {next : Except String ResultSet → Program DatabaseRequest DatabaseRequest.Answer α}
    (failed : ∀ m, Staged post (.outside : Stage d) (next (.error m)))
    (executed : ∀ x t', Executes d rows others t s x t' → ∃ st', Staged post st' (next (.ok x))
      ∧ st'.Fits (.inside t') ∧ Change rows others st st' rows)
    (answers : Answers d rows others (.inside t) (.execute s) r c' rows') :
    ∃ st', Staged post st' (next r) ∧ st'.Fits c' ∧ Change rows others st st' rows' := by
  cases answers with
  | executed h => exact executed _ _ h
  | failed m => exact ⟨_, failed m, trivial, .leave _⟩

theorem Stage.Fits.exists_inside (fits : st.Fits c) (h : st ≠ .outside) :
    ∃ t, c = .inside t := by
  cases c with
  | inside t => exact ⟨t, rfl⟩
  | idle | aborted =>
    cases st with
    | outside => exact absurd rfl h
    | _ => exact fits.elim

/-- The row of a slot that is held at a stage is held by the call's transaction. -/
theorem Stage.Fits.holds {id : SlotId} (fits : st.Fits c) (held : st.slotId? = some id) :
    ∃ t, c = .inside t ∧ id ∈ t.slots := by
  obtain ⟨t, rfl⟩ := fits.exists_inside (by rintro rfl; cases held)
  cases st with
  | outside | inside => cases held
  | held | claimed | written =>
    cases held
    exact ⟨t, rfl, fits.2⟩

/-- Whatever a call is answered, it is at the stage that the rule for what it asked leads to. -/
theorem Staged.answer {i : DatabaseRequest} {r : i.Answer}
    {next : i.Answer → Program DatabaseRequest DatabaseRequest.Answer α}
    (staged : Staged post st (.ask i next)) (fits : st.Fits c)
    (answers : Answers d rows others c i r c' rows') :
    ∃ st', Staged post st' (next r) ∧ st'.Fits c' ∧ Change rows others st st' rows' := by
  cases staged with
  | start failed started =>
    cases answers with
    | started => exact ⟨_, started, rfl, .stay _⟩
    | unstarted m => exact ⟨_, failed m, trivial, .leave _⟩
  | stop ht ended =>
    cases answers with
    | started => exact absurd rfl ht
    | unstarted => exact absurd rfl ht
    | committed answer => exact ⟨_, ended answer, trivial, .of_commit fits⟩
    | uncommitted m => exact ⟨_, ended _, trivial, .leave _⟩
    | nothing answer outside => exact ⟨_, ended answer, trivial, .leave _⟩
    | rolledBack _ answer => exact ⟨_, ended answer, trivial, .leave _⟩
  | cancel ended =>
    cases answers with
    | executed => exact fits.elim
    | failed => exact fits.elim
    | refused m => exact ⟨_, ended _, trivial, .leave _⟩
    | alone h => exact ⟨_, ended _, trivial, .of_cancel h⟩
    | aloneUnknown m h => exact ⟨_, ended _, trivial, .of_cancel h⟩
    | aloneFailed m => exact ⟨_, ended _, trivial, .leave _⟩
  | lockBooking failed locked =>
    obtain ⟨t, rfl⟩ := fits.exists_inside (by simp)
    refine Staged.answer_inside failed (fun x t' h => ?_) answers
    cases h with
    | noBooking => exact ⟨_, locked _, fits, .stay _⟩
    | booking => exact ⟨_, locked _, fits, .stay _⟩
  | lockSlot failed none some =>
    obtain ⟨t, rfl⟩ := fits.exists_inside (by simp)
    refine Staged.answer_inside failed (fun x t' h => ?_) answers
    cases h with
    | noSlot => exact ⟨_, none, fits, .stay _⟩
    | slot mem active free =>
      exact ⟨_, some _ mem active rfl, ⟨fits, List.mem_cons_self⟩, .lock free⟩
  | @count slot mem active date excluding _ occurs failed full room =>
    obtain ⟨t, rfl⟩ := fits.exists_inside (by simp)
    refine Staged.answer_inside failed (fun x t' h => ?_) answers
    obtain ⟨hwrites, hslot⟩ := fits
    cases h with
    | @count _ _ _ _ n counts =>
      rw [Transaction.view, hwrites, List.foldl_nil, d.startTime_eq slot mem] at counts
      by_cases less : n.toInt < slot.capacity.toNat
      · let claim : Claim d := ⟨slot, date, excluding, mem, active, occurs, by omega⟩
        refine ⟨.claimed claim, room n claim rfl rfl rfl (by omega) less, ⟨hwrites, hslot⟩, ?_⟩
        refine Change.claim (c := claim) ?_
        have small := counts ▸ less
        exact Int.ofNat_lt.1 small
      · exact ⟨_, full n (by omega), hwrites, .stay _⟩
  | @insert claim _ _ new staff date time failed written =>
    obtain ⟨t, rfl⟩ := fits.exists_inside (by simp)
    refine Staged.answer_inside failed (fun x t' h => ?_) answers
    obtain ⟨hwrites, hslot⟩ := fits
    cases h with
    | insert =>
      refine ⟨_, written _, ⟨.inr ⟨_, t.writes_write hwrites _, ?_⟩, hslot⟩, .write _⟩
      exact claim.allows_inserted new staff date time
  | @move claim _ _ _ _ moved staff time failed written =>
    obtain ⟨t, rfl⟩ := fits.exists_inside (by simp)
    refine Staged.answer_inside failed (fun x t' h => ?_) answers
    obtain ⟨hwrites, hslot⟩ := fits
    cases h with
    | noMove => exact ⟨_, written _, ⟨.inl hwrites, hslot⟩, .write _⟩
    | move =>
      refine ⟨_, written _, ⟨.inr ⟨_, t.writes_write hwrites _, ?_⟩, hslot⟩, .write _⟩
      exact claim.allows_updated moved staff time

end Answer

end Dialogue
