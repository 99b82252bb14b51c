import Mathlib.Data.Fintype.Card
import Dialogue.Proofs.Booking.Capacity
import Dialogue.Proofs.Booking.Sharing

/-!
# The last places of a time

Participants reach the last step of a booking of one time together. Each looks the slot up, checks
whether there is room, and takes a place; between any two of these queries those of the others can
fall, and so both the check and the attempt may find the time full. A check that finds room gives no
place and a place that is free is not refused, so in every order as many participants book as there
are places left, as long as there are participants (`Desk.booked_lastPlaces`).

A call is followed by what it still waits for (`OngoingCall.Contends`, `OngoingCall.Booked`), with a
bound on the replies it needs. The desk keeps who has booked as a set, which grows by one with every
place that is taken (`Desk.Shares`).
-/

namespace Dialogue

/-- The booking that an exchange made. -/
def BookingExchange.made? : BookingExchange → Option Booking
  | ⟨.create _, .ok (.created b)⟩ => some b
  | _ => none

theorem BookingExchange.made?_eq_none {x : BookingExchange} (h : x.1.changes = false) :
    x.made? = none := by
  unfold made?
  split
  · cases h
  · rfl

/-- The call is the last step of a booking of a slot on a date: the answer to the last question, or
the selection of the slot where nothing is asked. -/
inductive FlowCall.Finishes (slot : TimeSlot) (date : Date) (settings : BookAppointment)
    (c : Context) : FlowCall → Prop
  | answer {v : Visit} {body : String} {p : BookingProgress} {q : Questionnaire}
    {department : DepartmentId} : v.accountId = slot.accountId → c.booking = some p →
    p.flow = .book settings → p.step.awaitsText = true → c.capture = some q →
    (q.answered (Text.trim body)).current? = none → p.departmentId = some department →
    p.slotId = some slot.id → p.date = some date → Finishes slot date settings c (.text v body)
  | pick {v : Visit} {replyId : String} {p : BookingProgress} {department : DepartmentId} :
    v.accountId = slot.accountId → c.booking = some p → p.flow = .book settings →
    p.step = .selectSlot → Selection.parse? replyId = some (.slot slot.id date) →
    v.fits p slot date = true → settings.questions = [] → p.departmentId = some department →
    Finishes slot date settings c (.reply v replyId)

namespace OngoingCall

/-- The call has a place, and is over after at most so many more replies. -/
inductive Booked : Nat → OngoingCall → Prop
  | ended {n : Nat} {text : String} {c : Context} : c.Idle →
    Booked n (.done (.ok (.handled (.outcome text .booked)), c))
  | reads {n : Nat} {q : BookingQuery} {next : Except BookingError q.Answer → OngoingCall} :
    q.changes = false → (∀ a, Booked n (next (.ok a))) → Booked (n + 1) (.ask q next)

/-- The call is over without a place. -/
def TurnedAway (settings : BookAppointment) (call : OngoingCall) : Prop :=
  ∃ c : Context, c.Idle ∧
    call = .done (.ok (.handled (.ending settings.unavailableMessage)), c)

/-- The call wants a place, and is over after at most so many more replies. -/
inductive Contends (v : Visit) (settings : BookAppointment) (slot : TimeSlot) (date : Date) :
    Nat → OngoingCall → Prop
  | finds {n : Nat} {next : Except BookingError (Option TimeSlot) → OngoingCall} :
    Contends v settings slot date n (next (.ok (some slot))) →
    Contends v settings slot date (n + 1) (.ask (.getSlot slot.accountId slot.id) next)
  | checks {n : Nat} {next : Except BookingError Availability → OngoingCall} :
    (∀ a, a.available = true → Contends v settings slot date n (next (.ok a))) →
    (∀ a, a.available = false → TurnedAway settings (next (.ok a))) →
    Contends v settings slot date (n + 1)
      (.ask (.availability slot.staffId date slot.startTime none) next)
  | takes {n : Nat} {department : DepartmentId} {answers : Option Questionnaire}
    {next : Except BookingError Placement → OngoingCall} :
    (∀ b, Booked n (next (.ok (.created b)))) →
    (∀ a, TurnedAway settings (next (.ok (.full a)))) →
    Contends v settings slot date (n + 1)
      (.ask (.create (v.request department slot date answers)) next)

end OngoingCall

namespace Visit

open OngoingCall BookingWork

variable {v : Visit} {settings : BookAppointment} {slot : TimeSlot} {date : Date} {c : Context}
  {n : Nat}

theorem booked_announce {b : Booking} {text : String}
    {f : String → BookingWork ReplyHandling} (idle : c.Idle)
    (hf : ∀ text c, c.Idle → Booked n (f text c)) :
    Booked (n + 2) ((v.announce b text >>= f) c) := by
  refine .reads rfl fun department => .reads rfl fun staff => ?_
  exact hf _ _ (Context.idle_set idle "booking" (bookingVariable b
    ((department.map Department.name).getD "") ((staff.map Staff.name).getD "")))

theorem contends_place {department : DepartmentId} {answers : Option Questionnaire}
    {f : FlowStep → BookingWork ReplyHandling} (idle : c.Idle)
    (hf : ∀ step c, f step c = .done (.ok (.handled step), c)) :
    Contends v settings slot date (n + 4)
      ((v.place settings department slot date answers >>= f) c) := by
  have turned : TurnedAway settings ((pure (.ending settings.unavailableMessage) >>= f) c) :=
    ⟨c, idle, hf _ c⟩
  unfold place
  rw [Work.bind_assoc_apply]
  refine .checks (fun room open₁ => ?_) fun room closed => ?_
  · show Contends v settings slot date _ (((if room.available = true then _ else _) >>= f) c)
    rw [if_pos open₁, Work.bind_assoc_apply]
    refine .takes (fun b => ?_) fun _ => turned
    show Booked _ ((v.announce b settings.confirmationMessage >>= _ >>= f) c)
    rw [Work.bind_assoc_apply]
    refine booked_announce idle fun text c idle => ?_
    show Booked _ (f _ c)
    rw [hf]
    exact .ended idle
  · show TurnedAway settings (((if room.available = true then _ else _) >>= f) c)
    rw [if_neg (by simp [closed])]
    exact turned

theorem contends_complete {p : BookingProgress} {department : DepartmentId}
    {answers : Option Questionnaire} {f : FlowStep → BookingWork ReplyHandling}
    (account : v.accountId = slot.accountId) (hd : p.departmentId = some department)
    (hslot : p.slotId = some slot.id) (hdate : p.date = some date)
    (hf : ∀ step c, f step c = .done (.ok (.handled step), c)) :
    Contends v settings slot date (n + 5) ((v.complete p settings answers >>= f) c) := by
  unfold complete
  rw [hd, hslot, hdate, account]
  rw [Work.bind_assoc_apply]
  exact .finds (contends_place (Context.idle_clearProgress c) hf)

theorem contends_selectSlot {p : BookingProgress} {department : DepartmentId}
    {f : Option FlowStep → BookingWork ReplyHandling} (account : v.accountId = slot.accountId)
    (hd : p.departmentId = some department) (fits : v.fits p slot date = true)
    (silent : settings.questions = [])
    (hf : ∀ step c, f (some step) c = .done (.ok (.handled step), c)) :
    Contends v settings slot date (n + 7) ((v.selectSlot p settings slot.id date >>= f) c) := by
  unfold selectSlot
  rw [account, silent, Work.bind_assoc_apply]
  refine .finds ?_
  show Contends v settings slot date _ (((if v.fits p slot date = true then _ else _) >>= f) c)
  rw [if_pos fits, Work.bind_assoc_apply]
  refine .checks (fun room open₁ => ?_) fun room closed => ?_
  · show Contends v settings slot date _ (((if room.available = true then _ else _) >>= f) c)
    rw [if_pos open₁]
    dsimp only
    rw [Work.bind_assoc_apply]
    exact contends_complete account hd rfl rfl fun step c => hf step c
  · show TurnedAway settings (((if room.available = true then _ else _) >>= f) c)
    rw [if_neg (by simp [closed])]
    exact ⟨c.clearProgress, Context.idle_clearProgress c, hf _ _⟩

end Visit

open OngoingCall in
theorem FlowCall.Finishes.contends {slot : TimeSlot} {date : Date} {settings : BookAppointment}
    {c : Context} {call : FlowCall} (h : call.Finishes slot date settings c) :
    Contends call.visit settings slot date 7 (call.work c) := by
  cases h with
  | @answer v body p q department account hp flow waits hq last hd hslot hdate =>
    show Contends v settings slot date 7
      ((v.takeText body >>= fun step => pure (step.elim .notForFlow .handled)) c)
    rw [Work.bind_apply, Visit.takeText_apply, hp, hq]
    dsimp only
    rw [waits, flow]
    dsimp only
    rw [← Work.bind_apply, Work.bind_assoc_apply]
    unfold Visit.takeAnswer
    rw [last]
    exact Visit.contends_complete account hd hslot hdate fun step c => rfl
  | @pick v replyId p department account hp flow hstep hid fits silent hd =>
    show Contends v settings slot date 7 (v.takeReply replyId c)
    rw [Visit.takeReply_apply, hid, hp]
    dsimp only
    unfold Visit.takeSelection
    rw [flow, hstep]
    exact Visit.contends_selectSlot account hd fits silent fun step c => rfl

/-! ## Places at a time -/

namespace BookingTables

variable {t t' : BookingTables} {slot : TimeSlot} {date : Date}

/-- The places at the time of a slot that are not taken. -/
def placesLeft (t : BookingTables) (slot : TimeSlot) (date : Date) : Nat :=
  slot.capacity.toNat - t.confirmedAt slot.staffId date slot.startTime

/-- The slot is active, it has its number to itself, and no other active one of its member of staff
has its weekday and time. -/
structure IsSole (t : BookingTables) (slot : TimeSlot) : Prop where
  mem : slot ∈ t.slots
  active : slot.isActive = true
  numbered : ∀ s ∈ t.slots, s.id = slot.id → s = slot
  alone : ∀ s ∈ t.slots, s.isActive = true → s.staffId = slot.staffId →
    s.weekday = slot.weekday → s.startTime = slot.startTime → s = slot

namespace IsSole

theorem find? (sole : t.IsSole slot) {p : TimeSlot → Bool} (hp : p slot = true)
    (only : ∀ s ∈ t.slots, p s = true → s = slot) : t.slots.find? p = some slot := by
  rcases h : t.slots.find? p with _ | s
  · have := List.find?_eq_none.1 h slot sole.mem
    contradiction
  · rw [only s (List.mem_of_find?_eq_some h) (List.find?_some h)]

theorem of_slots_eq (sole : t.IsSole slot) (h : t'.slots = t.slots) : t'.IsSole slot := by
  obtain ⟨mem, active, numbered, alone⟩ := sole
  rw [← h] at mem numbered alone
  exact ⟨mem, active, numbered, alone⟩

theorem getSlot_eq (sole : t.IsSole slot) (now : Instant) :
    (answer now (.getSlot slot.accountId slot.id) t).1 = some slot := by
  refine sole.find? (by simp [sole.active]) fun s hs found => ?_
  simp only [Bool.and_eq_true, beq_iff_eq] at found
  exact sole.numbered s hs found.1.1

theorem covering?_eq (sole : t.IsSole slot) (occurs : slot.occursOn date = true) :
    t.covering? slot.staffId date slot.startTime = some slot := by
  refine sole.find? (by simp [sole.active, occurs]) fun s hs covers => ?_
  simp only [TimeSlot.occursOn, Bool.and_eq_true, beq_iff_eq] at covers occurs
  obtain ⟨⟨⟨active, staff⟩, time⟩, weekday⟩ := covers
  exact sole.alone s hs active staff (weekday.symm.trans occurs) time

/-- There is room at the time of a sole slot exactly while it has places left. -/
theorem available_iff (sole : t.IsSole slot) (occurs : slot.occursOn date = true) :
    (t.availability slot.staffId date slot.startTime none).available = true
      ↔ 0 < t.placesLeft slot date := by
  unfold availability Availability.available placesLeft
  rw [sole.covering?_eq occurs, taken_none, Nat.sub_pos_iff_lt]
  simp [clamp_lt_iff]

end IsSole

/-- A place that is taken adds the booking, which counts at its time. -/
theorem create_of_available (now : Instant) {r : BookingRequest}
    (room : (t.availability r.staffId r.date r.time none).available = true) :
    ∃ b u, t.create r now = (.created b, u) ∧ b.toBookingRequest = r ∧ b.status = .confirmed
      ∧ u.slots = t.slots ∧ u.bookings = t.bookings ++ [b]
      ∧ u.confirmedAt r.staffId r.date r.time = t.confirmedAt r.staffId r.date r.time + 1 := by
  unfold create
  rw [if_pos room]
  refine ⟨_, _, rfl, rfl, rfl, rfl, rfl, ?_⟩
  show (t.bookings ++ [_]).countP _ = t.bookings.countP _ + 1
  rw [List.countP_append, List.countP_singleton, if_pos (by simp [takes])]

theorem create_of_full {r : BookingRequest} {now : Instant}
    (full : (t.availability r.staffId r.date r.time none).available = false) :
    t.create r now = (.full (t.availability r.staffId r.date r.time none), t) := by
  unfold create
  rw [if_neg (by simp [full])]

end BookingTables

/-! ## At the desk -/

namespace OngoingCall

/-- The call has come to its end. -/
def IsOver (call : OngoingCall) : Prop := ∃ r, call = .done r

theorem Contends.pos {v : Visit} {settings : BookAppointment} {slot : TimeSlot} {date : Date}
    {n : Nat} {call : OngoingCall} (h : Contends v settings slot date n call) : 0 < n := by
  cases h <;> exact Nat.succ_pos _

theorem Contends.not_isOver {v : Visit} {settings : BookAppointment} {slot : TimeSlot}
    {date : Date} {n : Nat} {call : OngoingCall} (h : Contends v settings slot date n call) :
    ¬ call.IsOver := by
  rintro ⟨r, rfl⟩
  cases h

theorem Booked.of_done {n m : Nat} {r : Except BookingError ReplyHandling × Context}
    (h : Booked n (.done r)) : Booked m (.done r) := by
  cases h with
  | ended idle => exact .ended idle

theorem Booked.of_ask {n : Nat} {q : BookingQuery}
    {next : Except BookingError q.Answer → OngoingCall} (h : Booked n (.ask q next)) :
    q.changes = false ∧ ∀ a, Booked (n - 1) (next (.ok a)) := by
  cases h with
  | reads hq hnext => exact ⟨hq, hnext⟩

theorem Booked.isOver {call : OngoingCall} (h : Booked 0 call) : call.IsOver := by
  cases h with
  | ended => exact ⟨_, rfl⟩

theorem Booked.result {n : Nat} {r : Except BookingError ReplyHandling × Context}
    (h : Booked n (.done r)) :
    ∃ text c, r = (.ok (.handled (.outcome text .booked)), c) ∧ c.Idle := by
  cases h with
  | ended idle => exact ⟨_, _, rfl, idle⟩

end OngoingCall

namespace Desk

open OngoingCall

variable {ι : Type}

/-- Everyone has called, and nothing was replied to yet. -/
def called (t : BookingTables) (calls : ι → FlowCall) (contexts : ι → Context) : Desk ι :=
  ⟨t, fun i => (calls i).work (contexts i), []⟩

/-- All bookings that were made, in the order they were made. -/
def made (d : Desk ι) : List Booking := d.log.filterMap fun x => x.2.made?

variable [DecidableEq ι] {who : ι → Participant} {d d' : Desk ι} {i : ι}

/-- The bookings that a participant has made. -/
def madeBy (d : Desk ι) (i : ι) : List Booking :=
  d.log.filterMap fun x => if x.1 = i then x.2.made? else none

theorem mem_made_of_madeBy {b : Booking} (h : b ∈ d.madeBy i) : b ∈ d.made := by
  obtain ⟨x, hx, hb⟩ := List.mem_filterMap.1 h
  refine List.mem_filterMap.2 ⟨x, hx, ?_⟩
  split at hb
  · exact hb
  · cases hb

section Replied

variable {x : BookingExchange} {t : BookingTables} {call : OngoingCall}

theorem made_replied : (d.replied i x t call).made = d.made ++ x.made?.toList := by
  unfold made replied
  rw [List.filterMap_append]
  rcases h : x.made? <;> simp [h]

theorem madeBy_replied_self :
    (d.replied i x t call).madeBy i = d.madeBy i ++ x.made?.toList := by
  unfold madeBy replied
  rw [List.filterMap_append]
  rcases h : x.made? <;> simp [h]

theorem madeBy_replied_of_ne {j : ι} (h : j ≠ i) :
    (d.replied i x t call).madeBy j = d.madeBy j := by
  unfold madeBy replied
  rw [List.filterMap_append]
  simp [h.symm]

theorem calls_replied_self : (d.replied i x t call).calls i = call := Function.update_self ..

theorem calls_replied_of_ne {j : ι} (h : j ≠ i) :
    (d.replied i x t call).calls j = d.calls j := Function.update_of_ne h ..

end Replied

theorem step_reply_of_done {now : Instant} {r : Except BookingError ReplyHandling × Context}
    (h : d.calls i = .done r) : d.step who (.reply i now) = d := by
  unfold step
  simp only [h]

theorem step_reply_of_ask {now : Instant} {q : BookingQuery}
    {next : Except BookingError q.Answer → OngoingCall} (h : d.calls i = .ask q next) :
    d.step who (.reply i now)
      = d.replied i ⟨q, .ok (BookingTables.answer now q d.tables).1⟩
        (BookingTables.answer now q d.tables).2
        (next (.ok (BookingTables.answer now q d.tables).1)) := by
  unfold step
  simp only [h]
  rfl

variable {t : BookingTables} {slot : TimeSlot} {date : Date} {visits : ι → Visit}
  {settings : ι → BookAppointment} {booked : Finset ι} {left : ι → Nat}

/-- The participants who have a place so far, and the replies that each may still need: the places
are taken by the bookings they made, and who is turned away came when no place was left. -/
structure Shares (t : BookingTables) (slot : TimeSlot) (date : Date) (visits : ι → Visit)
    (settings : ι → BookAppointment) (booked : Finset ι) (left : ι → Nat) (d : Desk ι) :
    Prop where
  slots : d.tables.slots = t.slots
  bookings : d.tables.bookings = t.bookings ++ d.made
  length_made : d.made.length = booked.card
  card_le : booked.card ≤ t.placesLeft slot date
  placesLeft : d.tables.placesLeft slot date = t.placesLeft slot date - booked.card
  placed : ∀ i ∈ booked, (d.calls i).Booked (left i) ∧ ∃ b, d.madeBy i = [b]
    ∧ b.status = .confirmed ∧ ∃ department answers,
      b.toBookingRequest = (visits i).request department slot date answers
  others : ∀ i ∉ booked, d.madeBy i = [] ∧
    ((d.calls i).Contends (visits i) (settings i) slot date (left i)
      ∨ (d.calls i).TurnedAway (settings i) ∧ t.placesLeft slot date ≤ booked.card)

namespace Shares

theorem of_called {calls : ι → FlowCall} {contexts : ι → Context}
    (last : ∀ i, (calls i).Finishes slot date (settings i) (contexts i)) :
    (called t calls contexts).Shares t slot date (fun i => (calls i).visit) settings ∅
      fun _ => 7 where
  slots := rfl
  bookings := (List.append_nil _).symm
  length_made := rfl
  card_le := Nat.zero_le _
  placesLeft := rfl
  placed i hi := absurd hi (Finset.notMem_empty i)
  others i _ := ⟨rfl, .inl (last i).contends⟩

/-- Only one participant's call goes on, and no booking is made. -/
theorem turn (h : d.Shares t slot date visits settings booked left)
    (tables : d'.tables = d.tables) (made : d'.made = d.made)
    (madeBy : ∀ j, d'.madeBy j = d.madeBy j) (same : ∀ j, j ≠ i → d'.calls j = d.calls j)
    (placed : i ∈ booked → (d'.calls i).Booked (left i - 1))
    (others : i ∉ booked → (d'.calls i).Contends (visits i) (settings i) slot date (left i - 1)
      ∨ (d'.calls i).TurnedAway (settings i) ∧ t.placesLeft slot date ≤ booked.card) :
    d'.Shares t slot date visits settings booked (Function.update left i (left i - 1)) := by
  refine ⟨?_, ?_, ?_, h.card_le, ?_, fun j hj => ?_, fun j hj => ?_⟩
  · rw [tables, h.slots]
  · rw [tables, made, h.bookings]
  · rw [made, h.length_made]
  · rw [tables, h.placesLeft]
  · refine ⟨?_, madeBy j ▸ (h.placed j hj).2⟩
    rcases eq_or_ne j i with rfl | hne
    · rw [Function.update_self]
      exact placed hj
    · rw [Function.update_of_ne hne, same j hne]
      exact (h.placed j hj).1
  · refine ⟨madeBy j ▸ (h.others j hj).1, ?_⟩
    rcases eq_or_ne j i with rfl | hne
    · rw [Function.update_self]
      exact others hj
    · rw [Function.update_of_ne hne, same j hne]
      exact (h.others j hj).2

/-- A query that changes nothing is answered. -/
theorem read (h : d.Shares t slot date visits settings booked left) {q : BookingQuery}
    (hq : q.changes = false) {r : Except BookingError q.Answer} {call : OngoingCall}
    (placed : i ∈ booked → call.Booked (left i - 1))
    (others : i ∉ booked → call.Contends (visits i) (settings i) slot date (left i - 1)
      ∨ call.TurnedAway (settings i) ∧ t.placesLeft slot date ≤ booked.card) :
    (d.replied i ⟨q, r⟩ d.tables call).Shares t slot date visits settings booked
      (Function.update left i (left i - 1)) := by
  have none_made : BookingExchange.made? ⟨q, r⟩ = none := BookingExchange.made?_eq_none hq
  refine h.turn rfl ?_ (fun j => ?_) (fun j hj => calls_replied_of_ne hj) ?_ ?_
  · rw [made_replied, none_made]
    simp
  · rcases eq_or_ne j i with rfl | hne
    · rw [madeBy_replied_self, none_made]
      simp
    · exact madeBy_replied_of_ne hne
  · rw [calls_replied_self]
    exact placed
  · rw [calls_replied_self]
    exact others

/-- A place is taken. -/
theorem take (h : d.Shares t slot date visits settings booked left) (hi : i ∉ booked)
    (room : 0 < d.tables.placesLeft slot date) {department : DepartmentId}
    {answers : Option Questionnaire} {b : Booking} {tables : BookingTables} {call : OngoingCall}
    (request : b.toBookingRequest = (visits i).request department slot date answers)
    (confirmed : b.status = .confirmed) (slots : tables.slots = d.tables.slots)
    (bookings : tables.bookings = d.tables.bookings ++ [b])
    (places : tables.placesLeft slot date = d.tables.placesLeft slot date - 1)
    (has : call.Booked (left i - 1)) :
    (d.replied i ⟨.create ((visits i).request department slot date answers), .ok (.created b)⟩
      tables call).Shares t slot date visits settings (insert i booked)
      (Function.update left i (left i - 1)) := by
  have hcard := Finset.card_insert_of_notMem hi
  have hleft := h.placesLeft
  refine ⟨slots.trans h.slots, ?_, ?_, ?_, ?_, fun j hj => ?_, fun j hj => ?_⟩
  · rw [made_replied, ← List.append_assoc, ← h.bookings]
    exact bookings
  · rw [made_replied, List.length_append, h.length_made, hcard]
    rfl
  · omega
  · show tables.placesLeft slot date = _
    omega
  · rcases eq_or_ne j i with rfl | hne
    · rw [calls_replied_self, Function.update_self, madeBy_replied_self, (h.others j hi).1]
      exact ⟨has, b, rfl, confirmed, department, answers, request⟩
    · rw [calls_replied_of_ne hne, Function.update_of_ne hne, madeBy_replied_of_ne hne]
      exact h.placed j ((Finset.mem_insert.1 hj).resolve_left hne)
  · have hne : j ≠ i := fun hji => hj (Finset.mem_insert.2 (.inl hji))
    rw [calls_replied_of_ne hne, Function.update_of_ne hne, madeBy_replied_of_ne hne]
    obtain ⟨none_made, contends | ⟨turned, full⟩⟩ :=
      h.others j fun hmem => hj (Finset.mem_insert_of_mem hmem)
    · exact ⟨none_made, .inl contends⟩
    · exact ⟨none_made, .inr ⟨turned, by omega⟩⟩

/-- An attempt to take a place is refused. -/
theorem refuse (h : d.Shares t slot date visits settings booked left) (hi : i ∉ booked)
    (full : t.placesLeft slot date ≤ booked.card) {r : BookingRequest} {a : Availability}
    {call : OngoingCall} (turned : call.TurnedAway (settings i)) :
    (d.replied i ⟨.create r, .ok (.full a)⟩ d.tables call).Shares t slot date visits settings
      booked (Function.update left i (left i - 1)) := by
  refine h.turn rfl ?_ (fun j => ?_) (fun j hj => calls_replied_of_ne hj)
    (fun hmem => absurd hmem hi) fun _ => .inr ⟨?_, full⟩
  · rw [made_replied]
    exact List.append_nil _
  · rcases eq_or_ne j i with rfl | hne
    · rw [madeBy_replied_self]
      exact List.append_nil _
    · exact madeBy_replied_of_ne hne
  · rw [calls_replied_self]
    exact turned

variable (sole : t.IsSole slot) (occurs : slot.occursOn date = true)
include sole occurs

/-- A participant who wants a place is replied to. -/
theorem contender (h : d.Shares t slot date visits settings booked left) (hi : i ∉ booked)
    (now : Instant) {n : Nat} (hn : left i = n) {q : BookingQuery}
    {next : Except BookingError q.Answer → OngoingCall}
    (contends : Contends (visits i) (settings i) slot date n (.ask q next)) :
    ∃ booked, (d.replied i ⟨q, .ok (BookingTables.answer now q d.tables).1⟩
      (BookingTables.answer now q d.tables).2
      (next (.ok (BookingTables.answer now q d.tables).1))).Shares t slot date visits settings
        booked (Function.update left i (left i - 1)) := by
  have sole' := sole.of_slots_eq h.slots
  have room_iff := sole'.available_iff occurs
  have hleft := h.placesLeft
  have full_of (hroom : (d.tables.availability slot.staffId date slot.startTime none).available
      = false) : t.placesLeft slot date ≤ booked.card := by
    simp only [hroom, Bool.false_eq_true, false_iff] at room_iff
    omega
  have not_booked {P : Prop} (hmem : i ∈ booked) : P := absurd hmem hi
  cases contends with
  | @finds n next contends =>
    refine ⟨booked, h.read (q := .getSlot slot.accountId slot.id) rfl not_booked fun _ => .inl ?_⟩
    rw [sole'.getSlot_eq, hn]
    exact contends
  | @checks n next open₁ closed =>
    refine ⟨booked, h.read (q := .availability slot.staffId date slot.startTime none) rfl
      not_booked fun _ => ?_⟩
    rcases hroom : (d.tables.availability slot.staffId date slot.startTime none).available
    · exact .inr ⟨closed _ hroom, full_of hroom⟩
    · rw [hn]
      exact .inl (open₁ _ hroom)
  | @takes n department answers next placed full =>
    rcases hroom : (d.tables.availability slot.staffId date slot.startTime none).available
    · have refused : BookingTables.answer now (.create _) d.tables = (.full _, d.tables) :=
        BookingTables.create_of_full (r := (visits i).request department slot date answers) hroom
      rw [refused]
      exact ⟨booked, h.refuse hi (full_of hroom) (full _)⟩
    · obtain ⟨b, u, created, request, confirmed, slots, bookings, count⟩ :=
        BookingTables.create_of_available now
          (r := (visits i).request department slot date answers) hroom
      have created : BookingTables.answer now (.create _) d.tables = (.created b, u) := created
      rw [created]
      refine ⟨insert i booked, h.take hi (room_iff.1 hroom) request confirmed slots bookings ?_ ?_⟩
      · show slot.capacity.toNat - u.confirmedAt slot.staffId date slot.startTime = _
        exact (congrArg _ count).trans (Nat.sub_add_eq ..)
      · rw [hn]
        exact placed b

/-- One participant is replied to. -/
theorem reply (h : d.Shares t slot date visits settings booked left) (i : ι) (now : Instant) :
    ∃ booked, (d.step who (.reply i now)).Shares t slot date visits settings booked
      (Function.update left i (left i - 1)) := by
  cases hc : d.calls i with
  | done r =>
    rw [step_reply_of_done hc]
    refine ⟨booked, h.turn rfl rfl (fun _ => rfl) (fun _ _ => rfl) (fun hi => ?_) fun hi => ?_⟩
    · have placed := (h.placed i hi).1
      rw [hc] at placed ⊢
      exact placed.of_done
    · rcases (h.others i hi).2 with contends | turned
      · exact absurd ⟨r, hc⟩ contends.not_isOver
      · exact .inr turned
  | ask q next =>
    rw [step_reply_of_ask hc]
    by_cases hi : i ∈ booked
    · have placed := (h.placed i hi).1
      rw [hc] at placed
      obtain ⟨hq, hnext⟩ := placed.of_ask
      rw [BookingTables.answer_of_not_changes now hq]
      exact ⟨booked, h.read hq (fun _ => hnext _) fun hi' => absurd hi hi'⟩
    · rcases (h.others i hi).2 with contends | ⟨⟨c, -, ended⟩, -⟩
      · rw [hc] at contends
        exact h.contender sole occurs hi now rfl contends
      · rw [hc] at ended
        cases ended

/-- Participants are replied to, one after another. -/
theorem run : ∀ (order : List (ι × Instant)) {d : Desk ι} {booked : Finset ι} {left : ι → Nat},
    d.Shares t slot date visits settings booked left →
    ∃ booked, (d.run who (order.map fun m => .reply m.1 m.2)).Shares t slot date visits settings
      booked fun i => left i - (order.map Prod.fst).count i
  | [], d, booked, left, h => ⟨booked, h⟩
  | (j, now) :: order, d, booked, left, h => by
    obtain ⟨booked', h'⟩ : ∃ booked, (d.step who (.reply j now)).Shares t slot date visits settings
        booked (Function.update left j (left j - 1)) := h.reply sole occurs j now
    obtain ⟨booked'', h''⟩ := run order h'
    have hleft : (fun i => left i - (j :: order.map Prod.fst).count i)
        = fun i => Function.update left j (left j - 1) i - (order.map Prod.fst).count i := by
      funext i
      rcases eq_or_ne i j with rfl | hne
      · rw [Function.update_self, List.count_cons_self]
        omega
      · rw [Function.update_of_ne hne, List.count_cons_of_ne hne.symm]
    refine ⟨booked'', ?_⟩
    show Shares t slot date visits settings booked''
      (fun i => left i - (j :: order.map Prod.fst).count i) _
    rw [hleft]
    exact h''

end Shares

/-- Participants call for the last step of a booking of one time, and their queries are replied to
in any order. Every call is over once it had seven replies. When all are over, as many of the
participants have booked as there were places left, or all of them: each of those made one booking,
and the flow went on as booked. Every other one was told that the time is not available and made no
booking. Nobody is in the middle of anything. -/
theorem booked_lastPlaces [Fintype ι] (who : ι → Participant) (sole : t.IsSole slot)
    (occurs : slot.occursOn date = true) (calls : ι → FlowCall) (contexts : ι → Context)
    (settings : ι → BookAppointment)
    (last : ∀ i, (calls i).Finishes slot date (settings i) (contexts i))
    (order : List (ι × Instant)) :
    let d := (called t calls contexts).run who (order.map fun m => .reply m.1 m.2)
    (∀ i, 7 ≤ (order.map Prod.fst).count i → (d.calls i).IsOver)
      ∧ ((∀ i, (d.calls i).IsOver) → ∃ (booked : Finset ι) (added : List Booking),
        booked.card = min (Fintype.card ι)
          (slot.capacity.toNat - t.confirmedAt slot.staffId date slot.startTime)
        ∧ d.tables.bookings = t.bookings ++ added ∧ added.length = booked.card
        ∧ (∀ i ∈ booked,
          (∃ text c, d.calls i = .done (.ok (.handled (.outcome text .booked)), c)
            ∧ c.booking = none ∧ c.capture = none)
          ∧ ∃ b ∈ added, d.madeBy i = [b] ∧ b.status = .confirmed ∧ ∃ department answers,
            b.toBookingRequest = (calls i).visit.request department slot date answers)
        ∧ ∀ i ∉ booked, d.madeBy i = []
          ∧ ∃ c, d.calls i = .done (.ok (.handled (.ending (settings i).unavailableMessage)), c)
            ∧ c.booking = none ∧ c.capture = none) := by
  intro d
  obtain ⟨booked, h⟩ : ∃ booked, d.Shares t slot date (fun i => (calls i).visit) settings booked
      fun i => 7 - (order.map Prod.fst).count i :=
    (Shares.of_called last).run sole occurs order
  refine ⟨fun i hi => ?_, fun ended => ?_⟩
  · have hleft : 7 - (order.map Prod.fst).count i = 0 := by omega
    by_cases hmem : i ∈ booked
    · have placed := (h.placed i hmem).1
      rw [hleft] at placed
      exact placed.isOver
    · rcases (h.others i hmem).2 with contends | ⟨⟨c, -, hc⟩, -⟩
      · have := contends.pos
        omega
      · exact ⟨_, hc⟩
  · have turned (i : ι) (hi : i ∉ booked) :
        (d.calls i).TurnedAway (settings i) ∧ t.placesLeft slot date ≤ booked.card :=
      (h.others i hi).2.resolve_left fun contends => contends.not_isOver (ended i)
    refine ⟨booked, d.made, ?_, h.bookings, h.length_made, fun i hi => ?_, fun i hi => ?_⟩
    · have hle : booked.card ≤ t.placesLeft slot date := h.card_le
      have hall : booked.card ≤ Fintype.card ι := Finset.card_le_univ booked
      by_cases hbooked : booked = Finset.univ
      · have := Finset.card_univ (α := ι)
        rw [← hbooked] at this
        show _ = min _ (t.placesLeft slot date)
        omega
      · -- Someone was turned away, so no place is left.
        obtain ⟨i, hi⟩ : ∃ i, i ∉ booked := by
          simpa [Finset.eq_univ_iff_forall] using hbooked
        have := (turned i hi).2
        show _ = min _ (t.placesLeft slot date)
        omega
    · obtain ⟨placed, b, made, confirmed, request⟩ := h.placed i hi
      obtain ⟨r, hr⟩ := ended i
      rw [hr] at placed ⊢
      obtain ⟨text, c, rfl, idle⟩ := placed.result
      exact ⟨⟨text, c, rfl, idle⟩, b, mem_made_of_madeBy (made ▸ List.mem_singleton_self b), made,
        confirmed, request⟩
    · obtain ⟨⟨c, idle, hc⟩, -⟩ := turned i hi
      exact ⟨(h.others i hi).1, c, hc, idle⟩

end Desk

/-! Three participants and the last two of three places. Two of them have answered the only
question, the third one is asked nothing; all of them find room before the first one books. -/

namespace LastTwo

open Practice

def slot : TimeSlot := ⟨⟨3⟩, account, ⟨2⟩, .monday, noon, 3, true⟩

def tables : BookingTables :=
  BookingTables.empty.changeAll (staffed ++ [.addSlot account ⟨2⟩ .monday noon 3,
    .create ⟨account, ⟨1⟩, ⟨2⟩, ⟨3⟩, "919800000009", none, monday, noon, none, none⟩ now])

def visit (i : Fin 3) : Visit :=
  ⟨account, ["919800000001", "919800000002", "919800000003"][i], monday, .ofSecond 32400, 1⟩

def settings (i : Fin 3) : BookAppointment := { BookAppointment.standard with askName := i != 2 }

def pick (i : Fin 3) : FlowCall := .reply (visit i) "booking_slot_3_20260309"

def before (i : Fin 3) : List FlowCall :=
  [.book (visit i) "book" (settings i), .reply (visit i) "booking_dept_1",
    .reply (visit i) "booking_staff_2"] ++ if i = 2 then [] else [pick i]

def context (i : Fin 3) : Context :=
  (FlowCall.runAll (BookingTables.reply now) (before i) (.empty, tables)).1

def call (i : Fin 3) : FlowCall := if i = 2 then pick i else .text (visit i) "Asha"

def order : List (Fin 3 × Instant) :=
  (List.replicate 7 [(0, now), (1, now), (2, now)]).flatten

def after : Desk (Fin 3) :=
  (Desk.called tables call context).run (fun i => ⟨account, (visit i).phone⟩)
    (order.map fun m => .reply m.1 m.2)

def selected (i : Fin 3) (step : BookingStep) (slot : Option SlotId) (date : Option Date) :
    BookingProgress :=
  ⟨step, "book", .book (settings i), some ⟨1⟩, some ⟨2⟩, slot, date, none⟩

theorem finishes : ∀ i, (call i).Finishes slot monday (settings i) (context i)
  | 0 => .answer (p := selected 0 .enterName (some ⟨3⟩) (some monday))
    (q := .start "book" (settings 0).questions) rfl (by decide +kernel) rfl rfl
    (by decide +kernel) rfl rfl rfl rfl
  | 1 => .answer (p := selected 1 .enterName (some ⟨3⟩) (some monday))
    (q := .start "book" (settings 1).questions) rfl (by decide +kernel) rfl rfl
    (by decide +kernel) rfl rfl rfl rfl
  | 2 => .pick (p := selected 2 .selectSlot none none) rfl (by decide +kernel) rfl rfl
    (by decide +kernel) (by decide +kernel) rfl rfl

end LastTwo

open LastTwo Practice in
theorem Desk.booked_lastTwo : ∃ booked : Finset (Fin 3), booked.card = 2
    ∧ (∀ i ∈ booked, ∃ b ∈ after.tables.bookings, after.madeBy i = [b])
    ∧ (∀ i ∉ booked, (after.calls i).TurnedAway (settings i))
    ∧ after.tables.bookings.map (·.phone)
      = ["919800000009", "919800000001", "919800000002"] := by
  have sole : LastTwo.tables.IsSole slot :=
    ⟨by decide +kernel, rfl, by decide +kernel, by decide +kernel⟩
  have occurs : slot.occursOn monday = true := by decide +kernel
  obtain ⟨fair, result⟩ := Desk.booked_lastPlaces (fun i => ⟨account, (visit i).phone⟩) sole occurs
    call context settings finishes order
  obtain ⟨booked, added, hcard, bookings, -, placed, others⟩ :=
    result fun i => fair i (by revert i; decide)
  refine ⟨booked, hcard.trans (by decide +kernel), fun i hi => ?_, fun i hi => ?_,
    by decide +kernel⟩
  · obtain ⟨-, b, hb, made, -⟩ := placed i hi
    refine ⟨b, ?_, made⟩
    show b ∈ (Desk.run _ _ _).tables.bookings
    rw [bookings]
    exact List.mem_append_right _ hb
  · obtain ⟨-, c, hc, idle⟩ := others i hi
    exact ⟨c, idle, hc⟩

end Dialogue
