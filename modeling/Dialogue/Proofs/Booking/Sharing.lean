import Mathlib.Logic.Function.Basic
import Dialogue.Proofs.Booking.Backed

/-!
# Participants who share the tables

Any number of participants book at once. Each has a conversation of their own and is in at most one
call at a time; the tables reply to one query after another, whosever it is, and may fail to. The
state of it all is a `Desk`, and every interleaving is a list of moves.

Each call goes on from what the tables back and from answers they still bear out (`Follows`), and
so every booking that is ever stored names what belongs together in the account of the participant
who made it (`wellPlaced_run`).
-/

namespace Dialogue

/-- A call of which some part may have taken place. -/
abbrev OngoingCall : Type :=
  Program BookingQuery (fun q => Except BookingError q.Answer)
    (Except BookingError ReplyHandling × Context)

/-- Tables, the calls of the participants, and what was asked by whom. A call that is over holds
the context it has left. -/
structure Desk (ι : Type) where
  tables : BookingTables
  calls : ι → OngoingCall
  log : List (ι × BookingExchange)

/-- What can happen at a desk. -/
inductive DeskMove (ι : Type) where
  | call (i : ι) (call : FlowCall)
  | reply (i : ι) (now : Instant)
  | fail (i : ι) (e : BookingError)

namespace Desk

variable {ι : Type} [DecidableEq ι]

/-- Nobody has called yet. -/
def opened (t : BookingTables) : Desk ι := ⟨t, fun _ => .done (.ok .notForFlow, .empty), []⟩

/-- A query of a participant is replied to. -/
def replied (d : Desk ι) (i : ι) (x : BookingExchange) (t : BookingTables)
    (call : OngoingCall) : Desk ι :=
  ⟨t, Function.update d.calls i call, d.log ++ [(i, x)]⟩

/-- The desk after a move. A participant calls in their own name and not during a call; there is
only a reply where there is a query. -/
def step (who : ι → Participant) (d : Desk ι) : DeskMove ι → Desk ι
  | .call i call =>
    match d.calls i with
    | .done (_, c) =>
      if call.visit.isOf (who i) then { d with calls := Function.update d.calls i (call.work c) }
      else d
    | .ask _ _ => d
  | .reply i now =>
    match d.calls i with
    | .ask q next =>
      let r := BookingTables.reply now q d.tables
      d.replied i ⟨q, r.1⟩ r.2 (next r.1)
    | .done _ => d
  | .fail i e =>
    match d.calls i with
    | .ask q next => d.replied i ⟨q, .error e⟩ d.tables (next (.error e))
    | .done _ => d

/-- The desk after moves, one after another. -/
def run (who : ι → Participant) (d : Desk ι) (moves : List (DeskMove ι)) : Desk ι :=
  moves.foldl (step who) d

/-- A participant has made a booking. -/
def Made (d : Desk ι) (i : ι) (b : Booking) : Prop :=
  ∃ r b', (i, (⟨.create r, .ok (.created b')⟩ : BookingExchange)) ∈ d.log ∧ b'.id = b.id

/-- What a move can do. -/
inductive Stepped (who : ι → Participant) (d : Desk ι) : Desk ι → Prop
  | stays : Stepped who d d
  | called (i : ι) (call : FlowCall) (r : Except BookingError ReplyHandling) (c : Context) :
    d.calls i = .done (r, c) → call.visit.isOf (who i) = true →
    Stepped who d { d with calls := Function.update d.calls i (call.work c) }
  | replied (i : ι) (q : BookingQuery) (next : Except BookingError q.Answer → OngoingCall)
    (r : Except BookingError q.Answer) (t : BookingTables) : d.calls i = .ask q next →
    d.tables.Replies ⟨q, r⟩ t → Stepped who d (d.replied i ⟨q, r⟩ t (next r))

theorem stepped_step (who : ι → Participant) (d : Desk ι) (m : DeskMove ι) :
    Stepped who d (d.step who m) := by
  cases m with
  | call i call =>
    unfold step
    dsimp only
    split
    · rename_i r c hi
      split
      · rename_i isOf
        exact .called i call r c hi isOf
      · exact .stays
    · exact .stays
  | reply i now =>
    unfold step
    dsimp only
    split
    · rename_i q next hi
      exact .replied i q next _ _ hi (.inl ⟨now, rfl, rfl⟩)
    · exact .stays
  | fail i e =>
    unfold step
    dsimp only
    split
    · rename_i q next hi
      exact .replied i q next _ _ hi (.inr ⟨e, rfl, rfl⟩)
    · exact .stays

end Desk

/-! ## What every move keeps -/

namespace BookingTables

variable {t t' : BookingTables}

theorem Replies.effect {x : BookingExchange} (reply : t.Replies x t') : Effect t t' := by
  rcases reply with ⟨now, -, rfl⟩ | ⟨e, -, rfl⟩
  · exact effect_answer now x.1 t
  · exact .nothing

/-- A call of a participant goes on as a call does from a booking in progress that the tables back,
after answers that they bear out. -/
def Follows (t : BookingTables) (who : Participant) (call : OngoingCall) : Prop :=
  ∃ (v : Visit) (o : Option BookingProgress) (g : List BookingExchange), v.isOf who = true
    ∧ (∀ p, o = some p → t.Backs v.accountId p) ∧ (∀ x ∈ g, t.Bears x)
    ∧ call.Traced (v.Allows o) (v.Left o) g

theorem Later.follows (later : t.Later t') {who : Participant} {call : OngoingCall}
    (h : t.Follows who call) : t'.Follows who call := by
  obtain ⟨v, o, g, isOf, backs, told, traced⟩ := h
  exact ⟨v, o, g, isOf, fun p hp => later.backs (backs p hp), fun x hx => later.bears (told x hx),
    traced⟩

/-- The next call goes on from what the last one has left. -/
theorem Follows.call {who : Participant} {r : Except BookingError ReplyHandling} {c : Context}
    (h : t.Follows who (.done (r, c))) {call : FlowCall} (isOf : call.visit.isOf who = true) :
    t.Follows who (call.work c) := by
  obtain ⟨v, o, g, isOf', backs, told, left⟩ := h
  refine ⟨call.visit, c.booking, [], isOf, ?_, by simp, call.acts_work c⟩
  rw [(Visit.isOf_iff.1 isOf).1, ← (Visit.isOf_iff.1 isOf').1]
  exact Backs.turns backs told left

/-- A reply brings every booking where it belongs, and the call goes on from it. -/
theorem Follows.reply {who : Participant} {q : BookingQuery}
    {next : Except BookingError q.Answer → OngoingCall} (h : t.Follows who (.ask q next))
    {r : Except BookingError q.Answer} (reply : t.Replies ⟨q, r⟩ t') (w : t.WellNumbered)
    (w' : t'.WellNumbered) : t.Places who ⟨q, r⟩ t' ∧ t'.Follows who (next r) := by
  obtain ⟨v, o, g, isOf, backs, told, allowed, traced⟩ := h
  have places : t.Places who ⟨q, r⟩ t' := by
    cases hq : q.changes with
    | false =>
      obtain rfl := reply.eq_of_not_changes hq
      exact .refl t' who _
    | true =>
      obtain ⟨-, p, hp, grounds⟩ := allowed hq
      exact places_of_grounds grounds isOf told (backs p hp) reply w'
  refine ⟨places, v, o, g ++ [⟨q, r⟩], isOf, fun p hp => places.later.backs (backs p hp), ?_,
    traced r⟩
  intro x hx
  rcases List.mem_append.1 hx with hx | hx
  · exact places.later.bears (told x hx)
  · rw [List.mem_singleton.1 hx]
    exact places.later.bears (reply.bears w)

end BookingTables

namespace Desk

variable {ι : Type} {who : ι → Participant} {d d' : Desk ι}

/-- Numbers are distinct, every booking is well placed for the one who made it, and every call
follows from what the tables tell. -/
structure Sound (who : ι → Participant) (d : Desk ι) : Prop where
  numbered : d.tables.WellNumbered
  placed : ∀ b ∈ d.tables.bookings, ∃ i, d.Made i b ∧ d.tables.WellPlaced (who i) b
  follows : ∀ i, d.tables.Follows (who i) (d.calls i)

theorem sound_opened {t : BookingTables} (w : t.WellNumbered) (vacant : t.bookings = []) :
    (opened t : Desk ι).Sound who where
  numbered := w
  placed b hb := by
    change b ∈ t.bookings at hb
    rw [vacant] at hb
    cases hb
  follows i := by
    let v : Visit :=
      ⟨(who i).accountId, (who i).phone, ⟨0, by decide, by decide⟩, .ofSecond 0, 0⟩
    exact ⟨v, none, [], Visit.isOf_iff.2 ⟨rfl, rfl⟩, by simp, by simp, .stays none⟩

variable [DecidableEq ι]

theorem Stepped.rowCount_le (h : Stepped who d d') : d.tables.rowCount ≤ d'.tables.rowCount := by
  cases h with
  | stays => exact Nat.le_refl _
  | called => exact Nat.le_refl _
  | replied i q next r t hi reply => exact reply.effect.rowCount_le

theorem Sound.stepped (s : d.Sound who) (h : Stepped who d d')
    (few : d'.tables.rowCount < 2 ^ 63) : d'.Sound who := by
  cases h with
  | stays => exact s
  | called i call r c hi isOf =>
    refine ⟨s.numbered, s.placed, fun j => ?_⟩
    have hf := s.follows j
    by_cases hj : j = i
    · subst hj
      rw [hi] at hf
      show d.tables.Follows (who j) (Function.update d.calls j (call.work c) j)
      rw [Function.update_self]
      exact hf.call isOf
    · show d.tables.Follows (who j) (Function.update d.calls i (call.work c) j)
      rw [Function.update_of_ne hj]
      exact hf
  | replied i q next r t hi reply =>
    have w : t.WellNumbered := s.numbered.effect reply.effect few
    have hf := s.follows i
    rw [hi] at hf
    obtain ⟨places, hnext⟩ := hf.reply reply s.numbered w
    refine ⟨w, fun b hb => ?_, fun j => ?_⟩
    -- A booking is the one just made, or it was there under its number before.
    · rcases places.bookings b hb with ⟨r', hx, placed⟩ | ⟨c, hc, hid, keeps⟩
      · refine ⟨i, ⟨r', b, ?_, rfl⟩, placed⟩
        show _ ∈ d.log ++ [(i, _)]
        rw [← hx]
        exact List.mem_append_right _ (List.mem_singleton_self _)
      · obtain ⟨j, ⟨r', b', hmem, hid'⟩, placed⟩ := s.placed c hc
        exact ⟨j, ⟨r', b', List.mem_append_left _ hmem, hid'.trans hid⟩, keeps _ placed⟩
    · by_cases hj : j = i
      · subst hj
        show t.Follows (who j) (Function.update d.calls j (next r) j)
        rw [Function.update_self]
        exact hnext
      · -- Nobody else was told anything, and what they were told before stays true.
        show t.Follows (who j) (Function.update d.calls i (next r) j)
        rw [Function.update_of_ne hj]
        exact places.later.follows (s.follows j)

theorem rowCount_le_run : ∀ (moves : List (DeskMove ι)) (d : Desk ι),
    d.tables.rowCount ≤ (d.run who moves).tables.rowCount
  | [], _ => Nat.le_refl _
  | m :: r, d =>
    Nat.le_trans (stepped_step who d m).rowCount_le (rowCount_le_run r (d.step who m))

theorem Sound.run : ∀ (moves : List (DeskMove ι)) {d : Desk ι}, d.Sound who →
    (d.run who moves).tables.rowCount < 2 ^ 63 → (d.run who moves).Sound who
  | [], _, s, _ => s
  | m :: r, d, s, few =>
    Sound.run r (s.stepped (stepped_step who d m)
      (Nat.lt_of_le_of_lt (rowCount_le_run r (d.step who m)) few)) few

/-- Whoever calls, whatever they reply and however the queries of their calls fall between each
other, tables that start without bookings only ever store bookings of participants who made them,
each of a department, a member of staff and a slot that belong together, on a date of the slot and
at its time. -/
theorem wellPlaced_run (who : ι → Participant) (setup : List BookingChange)
    (vacant : (BookingTables.empty.changeAll setup).bookings = []) (moves : List (DeskMove ι))
    (few : (run who (opened (BookingTables.empty.changeAll setup)) moves).tables.rowCount
      < 2 ^ 63) :
    ∀ b ∈ (run who (opened (BookingTables.empty.changeAll setup)) moves).tables.bookings,
      ∃ i, (run who (opened (BookingTables.empty.changeAll setup)) moves).Made i b
        ∧ (run who (opened (BookingTables.empty.changeAll setup)) moves).tables.WellPlaced
          (who i) b := by
  have w : (BookingTables.empty.changeAll setup).WellNumbered :=
    BookingTables.wellNumbered_changeAll setup BookingTables.wellNumbered_empty
      (Nat.lt_of_le_of_lt (rowCount_le_run moves (opened _)) few)
  exact ((sound_opened w vacant).run moves few).placed

end Desk

/-! Two participants who book the same time, their queries in turns, before one of them moves to the
next day. -/

namespace InTurns

open Practice

def setup : List BookingChange :=
  staffed ++ [.addSlot account ⟨2⟩ .monday noon 2, .addSlot account ⟨2⟩ .tuesday noon 2]

def pair : Bool → Participant
  | false => ⟨account, "919800000001"⟩
  | true => ⟨account, "919800000002"⟩

def visit (today : Date) (i : Bool) : Visit :=
  ⟨account, (pair i).phone, today, .ofSecond 32400, 1⟩

def reply (i : Bool) : DeskMove Bool := .reply i now

def both (call : Visit → FlowCall) : List (DeskMove Bool) :=
  [.call false (call (visit monday false)), .call true (call (visit monday true))]
    ++ (List.replicate 8 [reply false, reply true]).flatten

def first (call : FlowCall) : List (DeskMove Bool) :=
  .call false call :: List.replicate 8 (reply false)

def moves : List (DeskMove Bool) :=
  both (.book · "book" .standard) ++ both (.reply · "booking_dept_1")
    ++ both (.reply · "booking_staff_2") ++ both (.reply · "booking_slot_3_20260309")
    ++ both (.text · "Asha") ++ first (.check (visit monday false) "check" .standard)
    ++ first (.reply (visit tuesday false) "booking_resched_5")
    ++ first (.reply (visit tuesday false) "booking_newslot_4_20260310")

def after : Desk Bool := Desk.run pair (Desk.opened (BookingTables.empty.changeAll setup)) moves

end InTurns

open InTurns in
theorem Desk.wellPlaced_inTurns : (BookingTables.empty.changeAll setup).bookings = []
    ∧ after.tables.rowCount = 6
    ∧ after.tables.bookings.map (fun b => (b.phone, b.slotId.number, b.date.day))
      = [("919800000001", 4, 20522), ("919800000002", 3, 20521)]
    ∧ ∀ b ∈ after.tables.bookings,
      ∃ i, after.Made i b ∧ after.tables.WellPlaced (pair i) b := by
  have count : after.tables.rowCount = 6 := by decide +kernel
  have vacant : (BookingTables.empty.changeAll setup).bookings = [] := rfl
  refine ⟨vacant, count, by decide +kernel, ?_⟩
  unfold after at *
  refine Desk.wellPlaced_run pair setup vacant moves ?_
  rw [count]
  decide

end Dialogue
