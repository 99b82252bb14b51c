import Dialogue.Proofs.History
import Dialogue.Storage.Bookings

/-!
# Transactions that take a place

Whatever a database answers, a transaction is committed only after the work in it has said so, and
no other one is (`runs_inTransaction_iff`). Work that takes a place says so only at the end of one
history: the slot's row was locked and serves the time, fewer bookings were counted there than it
has places, and one was written (`runs_placing_commit_iff`). So a place is taken exactly by such a
history, and whatever else a call comes to, nothing was committed (`place_committed_iff`).
-/

namespace Dialogue

/-- What a database was asked and answered, in order. -/
abbrev DatabaseHistory := List (Exchange DatabaseRequest.Answer)

namespace DatabaseWork

variable {α β ε δ : Type} {h : DatabaseHistory}

/-- Answered as in a history, the work asks what the history lists and ends with a result. -/
def Runs (w : StoreWork ε α) (h : DatabaseHistory) (r : Except ε α) : Prop :=
  Program.Runs w.run h r

theorem runs_bind {w : StoreWork ε α} {f : α → StoreWork ε β} {r : Except ε β} :
    Runs (w >>= f) h r ↔ (∃ e, Runs w h (.error e) ∧ r = .error e)
      ∨ ∃ h₁ a h₂, h = h₁ ++ h₂ ∧ Runs w h₁ (.ok a) ∧ Runs (f a) h₂ r := by
  refine Program.runs_bind.trans ⟨?_, ?_⟩
  · rintro ⟨h₁, e | a, h₂, rfl, run₁, run₂⟩
    · obtain ⟨rfl, rfl⟩ := run₂
      exact .inl ⟨e, by rwa [List.append_nil], rfl⟩
    · exact .inr ⟨h₁, a, h₂, rfl, run₁, run₂⟩
  · rintro (⟨e, run, rfl⟩ | ⟨h₁, a, h₂, rfl, run₁, run₂⟩)
    · exact ⟨h, .error e, [], (List.append_nil h).symm, run, rfl, rfl⟩
    · exact ⟨h₁, .ok a, h₂, rfl, run₁, run₂⟩

theorem runs_bind_ok {w : StoreWork ε α} {f : α → StoreWork ε β} {b : β} :
    Runs (w >>= f) h (.ok b)
      ↔ ∃ h₁ a h₂, h = h₁ ++ h₂ ∧ Runs w h₁ (.ok a) ∧ Runs (f a) h₂ (.ok b) := by
  rw [runs_bind]
  refine or_iff_right ?_
  rintro ⟨e, -, hb⟩
  cases hb

theorem runs_adapt {f : ε → δ} {w : StoreWork ε α} {r : Except δ α} :
    Runs (ExceptT.adapt f w) h r ↔ ∃ r', Runs w h r' ∧ r = r'.mapError f := by
  refine Program.runs_bind.trans ⟨?_, ?_⟩
  · rintro ⟨h₁, r', h₂, rfl, run, rfl, rfl⟩
    exact ⟨r', by rwa [List.append_nil], rfl⟩
  · rintro ⟨r', run, rfl⟩
    exact ⟨h, r', [], (List.append_nil h).symm, run, rfl, rfl⟩

/-! ## Statements -/

theorem runs_execute {s : Statement} {r : Except DatabaseError ResultSet} :
    Runs (execute s) h r ↔ ∃ a, h = [⟨.execute s, a⟩] ∧ r = a.mapError .refused := by
  constructor
  · rintro ⟨a, h', rfl, rfl, rfl⟩
    exact ⟨a, rfl, rfl⟩
  · rintro ⟨a, rfl, rfl⟩
    exact ⟨a, [], rfl, rfl, rfl⟩

theorem runs_step {t : TransactionStep} {r : Except DatabaseError Unit} :
    Runs (step t) h r ↔ ∃ a, h = [⟨.transaction t, a⟩] ∧ r = a.mapError .refused := by
  constructor
  · rintro ⟨a, h', rfl, rfl, rfl⟩
    exact ⟨a, rfl, rfl⟩
  · rintro ⟨a, rfl, rfl⟩
    exact ⟨a, [], rfl, rfl, rfl⟩

/-- The statement succeeded and brought rows, the first of them this one. -/
def Brings (s : Statement) (row : Row) (x : Exchange DatabaseRequest.Answer) : Prop :=
  ∃ rows affected, x = ⟨.execute s, .ok ⟨row :: rows, affected⟩⟩

theorem runs_execute_bind_ok {s : Statement} {f : ResultSet → DatabaseWork β} {b : β} :
    Runs (execute s >>= f) h (.ok b)
      ↔ ∃ r g, h = ⟨.execute s, .ok r⟩ :: g ∧ Runs (f r) g (.ok b) := by
  rw [runs_bind_ok]
  constructor
  · rintro ⟨h₁, r, g, rfl, executed, run⟩
    obtain ⟨m | r', rfl, hr⟩ := runs_execute.1 executed
    · cases hr
    · cases hr
      exact ⟨r, g, rfl, run⟩
  · rintro ⟨r, g, rfl, run⟩
    exact ⟨[_], r, g, rfl, runs_execute.2 ⟨_, rfl, rfl⟩, run⟩

theorem runs_fetchOptional_some {s : Statement} {read : RowReader α} {a : α} :
    Runs (fetchOptional s read) h (.ok (some a))
      ↔ ∃ x row, h = [x] ∧ Brings s row x ∧ read row = .ok a := by
  unfold fetchOptional
  rw [runs_execute_bind_ok]
  constructor
  · rintro ⟨⟨_ | ⟨row, rows⟩, affected⟩, g, rfl, run⟩
    · cases run.2
    · obtain ⟨g₁, b, g₂, rfl, ⟨rfl, hread⟩, rfl, hr⟩ := runs_bind_ok.1 run
      cases hr
      exact ⟨_, row, rfl, ⟨rows, affected, rfl⟩, hread.symm⟩
  · rintro ⟨_, row, rfl, ⟨rows, affected, rfl⟩, hread⟩
    exact ⟨_, [], rfl, runs_bind_ok.2 ⟨[], a, [], rfl, ⟨rfl, hread.symm⟩, rfl, rfl⟩⟩

theorem runs_fetchOne_ok {s : Statement} {read : RowReader α} {a : α} :
    Runs (fetchOne s read) h (.ok a) ↔ ∃ x row, h = [x] ∧ Brings s row x ∧ read row = .ok a := by
  unfold fetchOne
  rw [runs_execute_bind_ok]
  constructor
  · rintro ⟨⟨_ | ⟨row, rows⟩, affected⟩, g, rfl, run⟩
    · cases run.2
    · obtain ⟨rfl, hread⟩ := run
      exact ⟨_, row, rfl, ⟨rows, affected, rfl⟩, hread.symm⟩
  · rintro ⟨_, row, rfl, ⟨rows, affected, rfl⟩, hread⟩
    exact ⟨_, [], rfl, rfl, hread.symm⟩

/-! ## Work between the steps of a transaction -/

/-- Work that takes no step of a transaction. -/
def Stepless (w : DatabaseWork α) : Prop :=
  ∀ h r, Runs w h r → ∀ x ∈ h, ∃ s, x.1 = .execute s

theorem stepless_settled {r : Except DatabaseError α} : Stepless (settled r) := by
  rintro h r ⟨rfl, -⟩ x hx
  cases hx

theorem stepless_execute {s : Statement} : Stepless (execute s) := by
  intro h r run x hx
  obtain ⟨a, rfl, -⟩ := runs_execute.1 run
  exact ⟨s, congrArg Sigma.fst (List.mem_singleton.1 hx)⟩

theorem Stepless.bind {w : DatabaseWork α} {f : α → DatabaseWork β} (hw : Stepless w)
    (hf : ∀ a, Stepless (f a)) : Stepless (w >>= f) := by
  intro h r run x hx
  rcases runs_bind.1 run with ⟨e, run, -⟩ | ⟨h₁, a, h₂, rfl, run₁, run₂⟩
  · exact hw h _ run x hx
  · rcases List.mem_append.1 hx with hx | hx
    · exact hw h₁ _ run₁ x hx
    · exact hf a h₂ r run₂ x hx

theorem stepless_fetchOptional {s : Statement} {read : RowReader α} :
    Stepless (fetchOptional s read) := by
  refine stepless_execute.bind fun r => ?_
  split
  · exact stepless_settled
  · exact stepless_settled.bind fun _ => stepless_settled

theorem stepless_fetchOne {s : Statement} {read : RowReader α} : Stepless (fetchOne s read) := by
  refine stepless_execute.bind fun r => ?_
  split
  · exact stepless_settled
  · exact stepless_settled

/-- A step of a transaction that succeeded. -/
def taken (t : TransactionStep) : Exchange DatabaseRequest.Answer := ⟨.transaction t, .ok ()⟩

theorem Stepless.not_taken {w : DatabaseWork α} {r : Except DatabaseError α} {t : TransactionStep}
    (hw : Stepless w) (run : Runs w h r) : taken t ∉ h := by
  intro ht
  obtain ⟨s, hs⟩ := hw h r run _ ht
  cases hs

/-- How a transaction goes whose work is `w`. -/
inductive Transacted (w : DatabaseWork (Closing × α)) :
    DatabaseHistory → Except DatabaseError α → Prop
  | unstarted (m : String) : Transacted w [⟨.transaction .start, .error m⟩] (.error (.refused m))
  | failed {g : DatabaseHistory} {e : DatabaseError} (answer : Except String Unit) :
    Runs w g (.error e) →
    Transacted w (taken .start :: g ++ [⟨.transaction .rollback, answer⟩]) (.error e)
  | unended {g : DatabaseHistory} {c : Closing} {a : α} (m : String)
      (answer : Except String Unit) :
    Runs w g (.ok (c, a)) →
    Transacted w (taken .start :: g ++ [⟨.transaction c.step, .error m⟩,
      ⟨.transaction .rollback, answer⟩]) (.error (.refused m))
  | ended {g : DatabaseHistory} {c : Closing} {a : α} :
    Runs w g (.ok (c, a)) → Transacted w (taken .start :: g ++ [taken c.step]) (.ok a)

theorem runs_tryCatch {w : StoreWork ε α} {handler : ε → StoreWork ε α} {r : Except ε α} :
    Runs (tryCatch w handler) h r ↔ (∃ a, Runs w h (.ok a) ∧ r = .ok a)
      ∨ ∃ h₁ e h₂, h = h₁ ++ h₂ ∧ Runs w h₁ (.error e) ∧ Runs (handler e) h₂ r := by
  refine Program.runs_bind.trans ⟨?_, ?_⟩
  · rintro ⟨h₁, e | a, h₂, rfl, run₁, run₂⟩
    · exact .inr ⟨h₁, e, h₂, rfl, run₁, run₂⟩
    · obtain ⟨rfl, rfl⟩ := run₂
      exact .inl ⟨a, by rwa [List.append_nil], rfl⟩
  · rintro (⟨a, run, rfl⟩ | ⟨h₁, e, h₂, rfl, run₁, run₂⟩)
    · exact ⟨h, .ok a, [], (List.append_nil h).symm, run, rfl, rfl⟩
    · exact ⟨h₁, .error e, h₂, rfl, run₁, run₂⟩

theorem runs_abandon {e : DatabaseError} {r : Except DatabaseError α} :
    Runs (abandon e) h r ↔ ∃ a, h = [⟨.transaction .rollback, a⟩] ∧ r = .error e := by
  constructor
  · rintro ⟨a, h', rfl, rfl, rfl⟩
    exact ⟨a, rfl, rfl⟩
  · rintro ⟨a, rfl, rfl⟩
    exact ⟨a, [], rfl, rfl, rfl⟩

theorem Transacted.of_runs {w : DatabaseWork (Closing × α)} {r : Except DatabaseError α}
    (run : Runs (inTransaction w) h r) : Transacted w h r := by
  rcases runs_bind.1 run with ⟨e, started, rfl⟩ | ⟨h₁, ⟨⟩, h₂, rfl, started, inside⟩
  · obtain ⟨m | ⟨⟩, rfl, he⟩ := runs_step.1 started
    · cases he
      exact .unstarted m
    · cases he
  obtain ⟨m | ⟨⟩, rfl, hok⟩ := runs_step.1 started
  · cases hok
  rcases runs_tryCatch.1 inside with ⟨a, well, rfl⟩ | ⟨h₃, e, h₄, rfl, badly, abandoned⟩
  · obtain ⟨g, ⟨c, a'⟩, g', rfl, worked, rest⟩ := runs_bind_ok.1 well
    obtain ⟨g₁, ⟨⟩, g₂, rfl, closed, rfl, ha⟩ := runs_bind_ok.1 rest
    cases ha
    obtain ⟨m | ⟨⟩, rfl, hok⟩ := runs_step.1 closed
    · cases hok
    · exact .ended worked
  · obtain ⟨answer, rfl, rfl⟩ := runs_abandon.1 abandoned
    rcases runs_bind.1 badly with ⟨e', failed, he⟩ | ⟨g, ⟨c, a⟩, g', rfl, worked, rest⟩
    · cases he
      exact .failed answer failed
    rcases runs_bind.1 rest with ⟨e', closed, he⟩ | ⟨g₁, ⟨⟩, g₂, rfl, -, -, he⟩
    · cases he
      obtain ⟨m | ⟨⟩, rfl, he⟩ := runs_step.1 closed
      · cases he
        simpa [taken] using Transacted.unended m answer worked
      · cases he
    · cases he

theorem runs_inTransaction_of_runs {w : DatabaseWork (Closing × α)} {c : Closing} {a : α}
    (run : Runs w h (.ok (c, a))) :
    Runs (inTransaction w) (taken .start :: h ++ [taken c.step]) (.ok a) := by
  have closed : Runs (step c.step) [taken c.step] (.ok ()) := runs_step.2 ⟨_, rfl, rfl⟩
  refine runs_bind_ok.2 ⟨[taken .start], (), h ++ [taken c.step], rfl,
    runs_step.2 ⟨_, rfl, rfl⟩, runs_tryCatch.2 (.inl ⟨a, ?_, rfl⟩)⟩
  exact runs_bind_ok.2 ⟨h, (c, a), _, rfl, run,
    runs_bind_ok.2 ⟨_, (), [], rfl, closed, rfl, rfl⟩⟩

/-- A result that the work never rolls back with is a commit's. -/
theorem runs_inTransaction_ok_iff {w : DatabaseWork (Closing × α)} {a : α}
    (kept : ∀ g, ¬ Runs w g (.ok (.rollback, a))) : Runs (inTransaction w) h (.ok a)
      ↔ ∃ g, Runs w g (.ok (.commit, a)) ∧ h = taken .start :: g ++ [taken .commit] := by
  constructor
  · intro run
    obtain @⟨_⟩ | @⟨_⟩ | @⟨_⟩ | @⟨g, c, _, worked⟩ := Transacted.of_runs run
    cases c with
    | commit => exact ⟨g, worked, rfl⟩
    | rollback => exact absurd worked (kept g)
  · rintro ⟨g, worked, rfl⟩
    exact runs_inTransaction_of_runs worked

/-- A commit succeeds only if the work says so, and then it is the last thing that is asked. -/
theorem Transacted.of_taken_commit {w : DatabaseWork (Closing × α)}
    {r : Except DatabaseError α} (stepless : Stepless w) (run : Transacted w h r)
    (committed : taken .commit ∈ h) : ∃ g a, Runs w g (.ok (.commit, a))
      ∧ h = taken .start :: g ++ [taken .commit] ∧ r = .ok a := by
  -- The work takes no step, so the commit is what comes after it.
  have last {g rest : DatabaseHistory} {r : Except DatabaseError (Closing × α)}
      (worked : Runs w g r) (h : taken .commit ∈ taken .start :: g ++ rest) :
      taken .commit ∈ rest := by
    rcases List.mem_append.1 h with h | h
    · rcases List.mem_cons.1 h with h | h
      · cases h
      · exact absurd h (stepless.not_taken worked)
    · exact h
  cases run with
  | unstarted m => simp [taken] at committed
  | failed answer worked => simpa [taken] using last worked committed
  | unended m answer worked => simpa [taken] using last worked committed
  | @ended g c a worked =>
    cases c with
    | commit => exact ⟨g, a, worked, rfl, rfl⟩
    | rollback => simpa [taken, Closing.step] using last worked committed

end DatabaseWork

namespace Storage

open DatabaseWork RowReader

/-! ## Room -/

theorem toNat_places (c : Int32) : (places c).toNat = c.toInt.toNat := by
  have zero : (0 : Int32).toInt = 0 := rfl
  unfold places
  split
  · rename_i h
    rw [Int32.le_iff_toInt_le, zero] at h
    have cond := BitVec.toInt_eq_toNat_cond c.toBitVec
    have signed : c.toInt = c.toBitVec.toInt := rfl
    have unsigned : c.toUInt32.toNat = c.toBitVec.toNat := rfl
    have small := c.toBitVec.isLt
    split at cond <;> omega
  · rename_i h
    rw [Int32.le_iff_toInt_le, zero] at h
    have none : (0 : UInt32).toNat = 0 := rfl
    omega

/-- However the numbers are cut to 32 bits, there is room only if there are fewer than the places of
a capacity that is not negative. -/
theorem available_iff {n : Int64} {c : Int32} :
    (Availability.mk (count n) (places c)).available = true
      ↔ 0 ≤ n.toInt ∧ n.toInt < c.toInt := by
  have bound := c.toInt_lt
  have zero : (0 : Int64).toInt = 0 := rfl
  have top : (4294967295 : Int64).toInt = 4294967295 := rfl
  have most : (4294967295 : UInt32).toNat = 4294967295 := rfl
  unfold Availability.available count
  dsimp only
  rw [decide_eq_true_iff, UInt32.lt_iff_toNat_lt, toNat_places]
  split
  · rename_i h
    simp only [Bool.and_eq_true, decide_eq_true_eq, Int64.le_iff_toInt_le, zero, top] at h
    have fits : n.toInt.toNat < UInt32.size := by
      unfold UInt32.size
      omega
    rw [UInt32.toNat_ofNat_of_lt' fits]
    omega
  · rename_i h
    simp only [Bool.and_eq_true, decide_eq_true_eq, Int64.le_iff_toInt_le, zero, top] at h
    omega

/-! ## Taking a place -/

section Placing

variable {α : Type} {slot : SlotId} {staff : StaffId} {date : Date} {time : TimeOfDay}
  {excluding : Option BookingId} {write : Statement} {wrap : Placement → α} {h : DatabaseHistory}

/-- Work that takes a place by a statement if there is room, and says whether to commit. -/
def placing (slot : SlotId) (staff : StaffId) (date : Date) (time : TimeOfDay)
    (excluding : Option BookingId) (write : Statement) (wrap : Placement → α) :
    DatabaseWork (Closing × α) := do
  let room ← lockedAvailability slot staff date time excluding
  if room.available then
    let booking ← writtenBooking write
    return (.commit, wrap (.created booking))
  else return (.rollback, wrap (.full room))

/-- The row of a slot was locked that serves the time, fewer bookings were counted than it has
places, and one was written. -/
inductive Placed (slot : SlotId) (staff : StaffId) (date : Date) (time : TimeOfDay)
    (excluding : Option BookingId) (write : Statement) (b : Booking) : DatabaseHistory → Prop
  | mk {x y z : Exchange DatabaseRequest.Answer} {locking counting writing : Row}
      {locked : LockedSlot} {n : Int64} :
    Brings (.lockSlot slot) locking x → LockedSlot.row locking = .ok locked →
    locked.serves staff date time = true →
    Brings (.countConfirmed staff date time excluding) counting y →
    scalar SqlValue.bigint? counting = .ok n → 0 ≤ n.toInt → n.toInt < locked.capacity.toInt →
    Brings write writing z → bookingRow writing = .ok (.ok b) →
    Placed slot staff date time excluding write b [x, y, z]

theorem runs_writtenBooking_ok {b : Booking} : Runs (writtenBooking write) h (.ok b)
    ↔ ∃ x row, h = [x] ∧ Brings write row x ∧ bookingRow row = .ok (.ok b) := by
  unfold writtenBooking
  rw [runs_bind_ok]
  constructor
  · rintro ⟨h₁, r, h₂, rfl, run, rfl, rfl⟩
    obtain ⟨x, row, rfl, brings, read⟩ := runs_fetchOne_ok.1 run
    exact ⟨x, row, rfl, brings, read⟩
  · rintro ⟨x, row, rfl, brings, read⟩
    exact ⟨[x], .ok b, [], rfl, runs_fetchOne_ok.2 ⟨x, row, rfl, brings, read⟩, rfl, rfl⟩

theorem runs_confirmedCount_ok {existing : UInt32} :
    Runs (confirmedCount staff date time excluding) h (.ok existing)
      ↔ ∃ y row n, h = [y] ∧ Brings (.countConfirmed staff date time excluding) row y
        ∧ scalar SqlValue.bigint? row = .ok n ∧ existing = count n := by
  unfold confirmedCount
  rw [runs_bind_ok]
  constructor
  · rintro ⟨h₁, n, h₂, rfl, run, rfl, he⟩
    cases he
    obtain ⟨y, row, rfl, brings, read⟩ := runs_fetchOne_ok.1 run
    exact ⟨y, row, n, rfl, brings, read, rfl⟩
  · rintro ⟨y, row, n, rfl, brings, read, rfl⟩
    exact ⟨[y], n, [], rfl, runs_fetchOne_ok.2 ⟨y, row, rfl, brings, read⟩, rfl, rfl⟩

/-- There is room only behind the lock of a slot that serves the time, and by the count. -/
theorem runs_lockedAvailability_iff {room : Availability} (hroom : room.available = true) :
    Runs (lockedAvailability slot staff date time excluding) h (.ok room)
      ↔ ∃ x y locking counting locked n, h = [x, y] ∧ Brings (.lockSlot slot) locking x
        ∧ LockedSlot.row locking = .ok locked ∧ locked.serves staff date time = true
        ∧ Brings (.countConfirmed staff date time excluding) counting y
        ∧ scalar SqlValue.bigint? counting = .ok n
        ∧ room = ⟨count n, places locked.capacity⟩ := by
  unfold lockedAvailability
  rw [runs_bind_ok]
  constructor
  · rintro ⟨h₁, _ | locked, h₂, rfl, run₁, run₂⟩
    · obtain ⟨-, hr⟩ := run₂
      cases hr
      cases hroom
    · obtain ⟨x, locking, rfl, brings, read⟩ := runs_fetchOptional_some.1 run₁
      by_cases serves : locked.serves staff date time = true
      · simp only [serves, if_true] at run₂
        obtain ⟨g, existing, g', rfl, run, rfl, hr⟩ := runs_bind_ok.1 run₂
        cases hr
        obtain ⟨y, counting, n, rfl, counts, number, rfl⟩ := runs_confirmedCount_ok.1 run
        exact ⟨x, y, locking, counting, locked, n, rfl, brings, read, serves, counts, number, rfl⟩
      · simp only [serves] at run₂
        obtain ⟨-, hr⟩ := run₂
        cases hr
        cases hroom
  · rintro ⟨x, y, locking, counting, locked, n, rfl, brings, read, serves, counts, number, rfl⟩
    refine ⟨[x], some locked, [y], rfl,
      runs_fetchOptional_some.2 ⟨x, locking, rfl, brings, read⟩, ?_⟩
    simp only [serves, if_true]
    exact runs_bind_ok.2 ⟨[y], count n, [], rfl,
      runs_confirmedCount_ok.2 ⟨y, counting, n, rfl, counts, number, rfl⟩, rfl, rfl⟩

theorem runs_placing_commit_iff {a : α} :
    Runs (placing slot staff date time excluding write wrap) h (.ok (.commit, a))
      ↔ ∃ b, a = wrap (.created b) ∧ Placed slot staff date time excluding write b h := by
  unfold placing
  rw [runs_bind_ok]
  constructor
  · rintro ⟨h₁, room, h₂, rfl, run₁, run₂⟩
    by_cases hroom : room.available = true
    · simp only [hroom, if_true] at run₂
      obtain ⟨g, b, g', rfl, run, rfl, hr⟩ := runs_bind_ok.1 run₂
      cases hr
      obtain ⟨x, y, locking, counting, locked, n, rfl, brings, read, serves, counts, number, rfl⟩ :=
        (runs_lockedAvailability_iff hroom).1 run₁
      obtain ⟨z, writing, rfl, writes, written⟩ := runs_writtenBooking_ok.1 run
      obtain ⟨least, less⟩ := available_iff.1 hroom
      exact ⟨b, rfl, .mk brings read serves counts number least less writes written⟩
    · simp only [hroom] at run₂
      obtain ⟨-, hr⟩ := run₂
      cases hr
  · rintro ⟨b, rfl, ⟨brings, read, serves, counts, number, least, less, writes, written⟩⟩
    have hroom := available_iff.2 ⟨least, less⟩
    refine ⟨[_, _], _, [_], rfl, (runs_lockedAvailability_iff hroom).2
      ⟨_, _, _, _, _, _, rfl, brings, read, serves, counts, number, rfl⟩, ?_⟩
    simp only [hroom, if_true]
    exact runs_bind_ok.2 ⟨[_], b, [], rfl,
      runs_writtenBooking_ok.2 ⟨_, _, rfl, writes, written⟩, rfl, rfl⟩

theorem full_of_runs_placing_rollback {a : α}
    (run : Runs (placing slot staff date time excluding write wrap) h (.ok (.rollback, a))) :
    ∃ room, a = wrap (.full room) := by
  obtain ⟨h₁, room, h₂, rfl, -, run₂⟩ := runs_bind_ok.1 run
  by_cases hroom : room.available = true
  · simp only [hroom, if_true] at run₂
    obtain ⟨g, b, g', rfl, -, -, hr⟩ := runs_bind_ok.1 run₂
    cases hr
  · simp only [hroom] at run₂
    obtain ⟨-, hr⟩ := run₂
    cases hr
    exact ⟨room, rfl⟩

theorem stepless_placing :
    Stepless (placing slot staff date time excluding write wrap) := by
  refine Stepless.bind ?_ fun room => ?_
  · refine stepless_fetchOptional.bind fun locked => ?_
    split
    · exact stepless_settled
    · split
      · exact (stepless_fetchOne.bind fun _ => stepless_settled).bind fun _ => stepless_settled
      · exact stepless_settled
  · split
    · exact (stepless_fetchOne.bind fun _ => stepless_settled).bind fun _ => stepless_settled
    · exact stepless_settled

end Placing

section Calls

variable {h : DatabaseHistory}

theorem createBooking_eq (r : BookingRequest) : createBooking r
    = inTransaction (placing r.slotId r.staffId r.date r.time none (.insertBooking r) id) := rfl

/-- Work that moves a booking that stands. -/
def moving (account : AccountId) (id : BookingId) (slot : TimeSlot) (date : Date) :
    DatabaseWork (Closing × Option Placement) := do
  match ← fetchOptional (.lockBooking account id) (scalar SqlValue.bigint?) with
  | none => return (.rollback, none)
  | some _ =>
    placing slot.id slot.staffId date slot.startTime (some id)
      (.moveBooking account id slot date) some

theorem rescheduleBooking_eq (account : AccountId) (id : BookingId) (slot : TimeSlot)
    (date : Date) : rescheduleBooking account id slot date
      = inTransaction (moving account id slot date) := rfl

variable {account : AccountId} {id : BookingId} {slot : TimeSlot} {date : Date}

/-- The row of the booking was locked, and then a place taken at the new time. -/
inductive Moved (account : AccountId) (id : BookingId) (slot : TimeSlot) (date : Date)
    (b : Booking) : DatabaseHistory → Prop
  | mk {x : Exchange DatabaseRequest.Answer} {row : Row} {held : Int64} {g : DatabaseHistory} :
    Brings (.lockBooking account id) row x → scalar SqlValue.bigint? row = .ok held →
    Placed slot.id slot.staffId date slot.startTime (some id) (.moveBooking account id slot date)
      b g →
    Moved account id slot date b (x :: g)

theorem runs_moving_commit_iff {a : Option Placement} :
    Runs (moving account id slot date) h (.ok (.commit, a))
      ↔ ∃ b, a = some (.created b) ∧ Moved account id slot date b h := by
  unfold moving
  rw [runs_bind_ok]
  constructor
  · rintro ⟨h₁, _ | held, h₂, rfl, run₁, run₂⟩
    · obtain ⟨-, hr⟩ := run₂
      cases hr
    · obtain ⟨x, row, rfl, brings, read⟩ := runs_fetchOptional_some.1 run₁
      obtain ⟨b, rfl, placed⟩ := runs_placing_commit_iff.1 run₂
      exact ⟨b, rfl, .mk brings read placed⟩
  · rintro ⟨b, rfl, ⟨brings, read, placed⟩⟩
    exact ⟨[_], some _, _, rfl, runs_fetchOptional_some.2 ⟨_, _, rfl, brings, read⟩,
      runs_placing_commit_iff.2 ⟨b, rfl, placed⟩⟩

theorem not_created_of_runs_moving_rollback {b : Booking} :
    ¬ Runs (moving account id slot date) h (.ok (.rollback, some (.created b))) := by
  intro run
  obtain ⟨h₁, _ | held, h₂, rfl, run₁, run₂⟩ := runs_bind_ok.1 run
  · obtain ⟨-, hr⟩ := run₂
    cases hr
  · obtain ⟨room, hr⟩ := full_of_runs_placing_rollback run₂
    cases hr

theorem stepless_moving : Stepless (moving account id slot date) := by
  refine stepless_fetchOptional.bind fun held => ?_
  split
  · exact stepless_settled
  · exact stepless_placing

theorem runs_booking {q : BookingQuery} {r : Except BookingError q.Answer} :
    Runs (booking q) h r ↔ ∃ r', Runs (answer q) h r'
      ∧ r = r'.mapError fun e => ⟨q.operation, e.message⟩ := runs_adapt

theorem runs_booking_ok {q : BookingQuery} {a : q.Answer} :
    Runs (booking q) h (.ok a) ↔ Runs (answer q) h (.ok a) := by
  rw [runs_booking]
  constructor
  · rintro ⟨_ | a', run, hr⟩
    · cases hr
    · cases hr
      exact run
  · intro run
    exact ⟨.ok a, run, rfl⟩

/-- A query is answered with a booking exactly by a transaction that does the work for it and is
committed; and where it comes to anything else, none is. -/
structure CommitsBy (q : BookingQuery) (created : Booking → q.Answer)
    (work : Booking → DatabaseHistory → Prop) : Prop where
  created_iff : ∀ h b, Runs (booking q) h (.ok (created b))
    ↔ ∃ g, work b g ∧ h = taken .start :: g ++ [taken .commit]
  uncommitted : ∀ h r, Runs (booking q) h r → (∀ b, r ≠ .ok (created b)) → taken .commit ∉ h

theorem CommitsBy.of_inTransaction {q : BookingQuery} {created : Booking → q.Answer}
    {work : Booking → DatabaseHistory → Prop} {w : DatabaseWork (Closing × q.Answer)}
    (eq : answer q = inTransaction w) (stepless : Stepless w)
    (commits : ∀ g a, Runs w g (.ok (.commit, a)) ↔ ∃ b, a = created b ∧ work b g)
    (kept : ∀ g b, ¬ Runs w g (.ok (.rollback, created b)))
    (injective : Function.Injective created) : CommitsBy q created work where
  created_iff h b := by
    rw [runs_booking_ok, eq, runs_inTransaction_ok_iff fun g => kept g b]
    refine exists_congr fun g => and_congr_left fun _ => (commits g _).trans ⟨?_, ?_⟩
    · rintro ⟨b', hb, worked⟩
      rwa [injective hb]
    · intro worked
      exact ⟨b, rfl, worked⟩
  uncommitted h r run none committed := by
    obtain ⟨r', answered, rfl⟩ := runs_booking.1 run
    rw [eq] at answered
    obtain ⟨g, a, worked, rfl, rfl⟩ :=
      (Transacted.of_runs answered).of_taken_commit stepless committed
    obtain ⟨b, rfl, -⟩ := (commits g a).1 worked
    exact none b rfl

/-- A booking is created exactly by a committed transaction that locks the slot, finds room by its
count and writes once; it is moved by one that locks the booking first. A call that comes to
anything else, a refusal or a failure of any statement or step, has committed nothing. -/
theorem place_committed_iff :
    (∀ r, CommitsBy (.create r) .created
      (Placed r.slotId r.staffId r.date r.time none (.insertBooking r)))
    ∧ ∀ account id slot date, CommitsBy (.reschedule account id slot date)
      (fun b => some (.created b)) (Moved account id slot date) := by
  refine ⟨fun r => ?_, fun account id slot date => ?_⟩
  · refine .of_inTransaction (createBooking_eq r) stepless_placing
      (fun g a => runs_placing_commit_iff) (fun g b run => ?_) fun _ _ => Placement.created.inj
    obtain ⟨room, hr⟩ := full_of_runs_placing_rollback run
    cases hr
  · exact .of_inTransaction (rescheduleBooking_eq account id slot date) stepless_moving
      (fun g a => runs_moving_commit_iff) (fun g b => not_created_of_runs_moving_rollback)
      fun _ _ h => Placement.created.inj (Option.some.inj h)

end Calls

namespace LastPlace

def account : AccountId := ⟨⟨1⟩⟩

def monday : Date := (Date.ofCivil? ⟨2026, 3, 16⟩).get rfl

def noon : TimeOfDay := .ofSecond 43200

def request : BookingRequest :=
  ⟨account, ⟨1⟩, ⟨2⟩, ⟨3⟩, "919800000001", none, monday, noon, none, none⟩

def booking : Booking := ⟨request, ⟨5⟩, .confirmed, default⟩

def slotRow : Row :=
  [("staff_id", .bigint 2), ("weekday", .smallint 0), ("start_time", .time noon),
    ("capacity", .integer 1)]

def writtenRow : Row :=
  [("id", .bigint 5), ("account_id", .text account.text), ("department_id", .bigint 1),
    ("staff_id", .bigint 2), ("slot_id", .bigint 3), ("phone", .text "919800000001"),
    ("customer_name", .null), ("booking_date", .date monday), ("booking_time", .time noon),
    ("custom_answer_1", .null), ("custom_answer_2", .null), ("status", .text "confirmed"),
    ("created_at", .timestamp booking.createdAt)]

def answered (s : Statement) (row : Row) : Exchange DatabaseRequest.Answer :=
  ⟨.execute s, .ok ⟨[row], 1⟩⟩

/-- What creating the booking asks, up to the commit. -/
def history : DatabaseHistory :=
  [answered (.lockSlot ⟨3⟩) slotRow,
    answered (.countConfirmed ⟨2⟩ monday noon none) [("count", .bigint 0)],
    answered (.insertBooking request) writtenRow]

end LastPlace

open LastPlace in
theorem place_committed_iff_lastPlace : Runs (Storage.booking (.create request))
    (taken .start :: history ++ [taken .commit]) (.ok (.created LastPlace.booking)) := by
  refine ((place_committed_iff.1 request).created_iff _ _).2 ⟨history, ?_, rfl⟩
  exact .mk ⟨[], 1, rfl⟩ rfl (by decide) ⟨[], 1, rfl⟩ rfl (by decide) (by decide) ⟨[], 1, rfl⟩ rfl

end Storage

end Dialogue
