import Mathlib.Data.Finset.Card
import Mathlib.Data.Multiset.Filter
import Dialogue.Proofs.Storage.Stages

/-!
# How far calls can overbook a time

A count is right only about what is committed. Whoever holds the row of another slot of the same
time has counted too and may write later, so each slot but one lets one more booking pass beside
the largest capacity (`BookingSchema.limit`). What carries the proof is the load of a time: the
bookings that stand there, those that claims would move there, and the claims for new ones. Only a
new claim makes it grow, and then the count, and the slots of the claims, keep it within the limit
(`load_cons_le_limit`); a claim that is made good or given up does not (`load_put_le_cons`,
`load_le_cons`). So it stays within the limit at every step (`Within.step`).
-/

namespace Dialogue

open BookingTables (takes)

variable {d : BookingSchema}

namespace BookingSchema

variable (d : BookingSchema) (staff : StaffId) (date : Date) (time : TimeOfDay)

/-- The slots that cover a time and take at least one booking. -/
def bookable : List TimeSlot := (d.covering staff date time).filter fun s => 0 < s.capacity.toNat

/-- The number of bookings that calls side by side can bring a time to: each slot but one lets one
more pass beside the largest capacity. -/
def limit : Nat := d.largest staff date time + ((d.bookable staff date time).length - 1)

end BookingSchema

section Load

variable (staff : StaffId) (date : Date) (time : TimeOfDay)

namespace Claim

/-- The claim is to a place at a time. -/
def At (c : Claim d) : Prop := c.slot.staffId = staff ∧ c.date = date ∧ c.slot.startTime = time

instance : DecidablePred (Claim.At (d := d) staff date time) :=
  fun _ => inferInstanceAs (Decidable (_ ∧ _))

end Claim

/-- The numbers of the bookings that stand at a time. -/
def standing (rows : List Booking) : Finset BookingId :=
  ((rows.filter fun b => takes b staff date time).map Booking.id).toFinset

/-- The numbers of the bookings that claims would move to a time. -/
def movedTo (claims : Multiset (Claim d)) : Finset BookingId :=
  ((claims.filter (Claim.At staff date time)).filterMap Claim.moved).toFinset

/-- The number of claims to a place at a time for a new booking. -/
def newAt (claims : Multiset (Claim d)) : Nat :=
  claims.countP fun c => c.At staff date time ∧ c.moved = none

/-- How many bookings a time has and may yet get by what is claimed. -/
def load (rows : List Booking) (claims : Multiset (Claim d)) : Nat :=
  (standing staff date time rows ∪ movedTo staff date time claims).card
    + newAt staff date time claims

variable {staff date time} {rows : List Booking} {claims : Multiset (Claim d)} {c : Claim d}
  {b : Booking} {id : BookingId}

theorem mem_standing : id ∈ standing staff date time rows
    ↔ ∃ b ∈ rows, takes b staff date time = true ∧ b.id = id := by
  simp [standing, and_assoc]

theorem mem_movedTo : id ∈ movedTo staff date time claims
    ↔ ∃ c ∈ claims, c.At staff date time ∧ c.moved = some id := by
  simp [movedTo, and_assoc]

theorem movedTo_subset_cons :
    movedTo staff date time claims ⊆ movedTo staff date time (c ::ₘ claims) := by
  intro id hid
  obtain ⟨c', hc', hat, hmoved⟩ := mem_movedTo.1 hid
  exact mem_movedTo.2 ⟨c', Multiset.mem_cons_of_mem hc', hat, hmoved⟩

/-- A claim that is given up leaves no more than there was. -/
theorem load_le_cons :
    load staff date time rows claims ≤ load staff date time rows (c ::ₘ claims) :=
  Nat.add_le_add (Finset.card_le_card (Finset.union_subset_union_right movedTo_subset_cons))
    (Multiset.countP_le_of_le _ (Multiset.le_cons_self claims c))

theorem load_cons_of_not_at (h : ¬ c.At staff date time) :
    load staff date time rows (c ::ₘ claims) = load staff date time rows claims := by
  have moved : movedTo staff date time (c ::ₘ claims) = movedTo staff date time claims := by
    rw [movedTo, Multiset.filter_cons_of_neg _ h]
    rfl
  unfold load newAt
  rw [moved, Multiset.countP_cons_of_neg _ fun at_ => h at_.1]

theorem countP_le_load (numbered : (rows.map Booking.id).Nodup) :
    rows.countP (fun b => takes b staff date time) ≤ load staff date time rows claims := by
  have count : (standing staff date time rows).card
      = rows.countP fun b => takes b staff date time := by
    rw [standing, List.toFinset_card_of_nodup (numbered.sublist (List.filter_sublist.map _)),
      List.length_map, List.countP_eq_length_filter]
  rw [← count]
  exact (Finset.card_le_card Finset.subset_union_left).trans (Nat.le_add_right _ _)

/-! ## Rows that are written -/

theorem mem_standing_put (h : id ∈ standing staff date time (putBooking rows b)) :
    id = b.id ∧ takes b staff date time = true ∨ id ∈ standing staff date time rows := by
  obtain ⟨b', hb', htakes, rfl⟩ := mem_standing.1 h
  rcases List.mem_cons.1 hb' with rfl | hb'
  · exact .inl ⟨rfl, htakes⟩
  · exact .inr (mem_standing.2 ⟨b', (List.mem_filter.1 hb').1, htakes, rfl⟩)

theorem nodup_putBooking (numbered : (rows.map Booking.id).Nodup) (b : Booking) :
    ((putBooking rows b).map Booking.id).Nodup := by
  refine List.nodup_cons.2 ⟨fun h => ?_, numbered.sublist (List.filter_sublist.map _)⟩
  obtain ⟨c, hc, hid⟩ := List.mem_map.1 h
  simpa [hid] using (List.mem_filter.1 hc).2

/-- A row that does not stand at the time adds nothing there. -/
theorem load_put_le (h : takes b staff date time = false) :
    load staff date time (putBooking rows b) claims ≤ load staff date time rows claims := by
  refine Nat.add_le_add_right (Finset.card_le_card (Finset.union_subset_union_left ?_)) _
  intro id hid
  rcases mem_standing_put hid with ⟨-, htakes⟩ | hid
  · rw [h] at htakes
    cases htakes
  · exact hid

theorem Claim.Allows.at (allows : c.Allows b) (h : takes b staff date time = true) :
    c.At staff date time := by
  simp only [takes, Bool.and_eq_true, beq_iff_eq] at h
  obtain ⟨⟨⟨-, rfl⟩, rfl⟩, rfl⟩ := h
  exact ⟨allows.staff.symm, allows.date.symm, allows.time.symm⟩

/-- A claim that is made good adds nothing to what was claimed. -/
theorem load_put_le_cons (allows : c.Allows b) :
    load staff date time (putBooking rows b) claims
      ≤ load staff date time rows (c ::ₘ claims) := by
  cases htakes : takes b staff date time with
  | false => exact (load_put_le htakes).trans load_le_cons
  | true =>
    have hat := allows.at htakes
    have grows : standing staff date time (putBooking rows b) ∪ movedTo staff date time claims
        ⊆ insert b.id (standing staff date time rows ∪ movedTo staff date time claims) := by
      intro id hid
      rcases Finset.mem_union.1 hid with hid | hid
      · rcases mem_standing_put hid with ⟨rfl, -⟩ | hid
        · exact Finset.mem_insert_self _ _
        · exact Finset.mem_insert_of_mem (Finset.mem_union_left _ hid)
      · exact Finset.mem_insert_of_mem (Finset.mem_union_right _ hid)
    rcases allows.moved with new | moves
    · have counts : newAt staff date time (c ::ₘ claims) = newAt staff date time claims + 1 :=
        Multiset.countP_cons_of_pos _ ⟨hat, new⟩
      have less := (Finset.card_le_card grows).trans (Finset.card_insert_le _ _)
      have more : (standing staff date time rows ∪ movedTo staff date time claims).card
          ≤ (standing staff date time rows ∪ movedTo staff date time (c ::ₘ claims)).card :=
        Finset.card_le_card (Finset.union_subset_union_right movedTo_subset_cons)
      unfold load
      omega
    · have mem : b.id ∈ movedTo staff date time (c ::ₘ claims) :=
        mem_movedTo.2 ⟨c, Multiset.mem_cons_self _ _, hat, moves⟩
      refine Nat.add_le_add (Finset.card_le_card (grows.trans ?_))
        (Multiset.countP_le_of_le _ (Multiset.le_cons_self claims c))
      exact Finset.insert_subset (Finset.mem_union_right _ mem)
        (Finset.union_subset_union_right movedTo_subset_cons)

/-! ## A new claim -/

/-- Every claim at a time adds at most one. -/
theorem card_movedTo_add_newAt_le : (movedTo staff date time claims).card
    + newAt staff date time claims ≤ claims.countP (Claim.At staff date time) := by
  induction claims using Multiset.induction_on with
  | empty => simp [movedTo, newAt]
  | cons c claims ih =>
    by_cases hat : c.At staff date time
    · rw [Multiset.countP_cons_of_pos _ hat]
      unfold newAt movedTo at ih ⊢
      rw [Multiset.filter_cons_of_pos _ hat]
      cases hmoved : c.moved with
      | none =>
        rw [Multiset.filterMap_cons_none _ _ hmoved, Multiset.countP_cons_of_pos _ ⟨hat, hmoved⟩]
        omega
      | some id =>
        rw [Multiset.filterMap_cons_some _ _ _ hmoved, Multiset.toFinset_cons,
          Multiset.countP_cons_of_neg _ (by simp [hmoved])]
        have := Finset.card_insert_le id
          (((claims.filter (Claim.At staff date time)).filterMap Claim.moved).toFinset)
        omega
    · rw [Multiset.countP_cons_of_neg _ hat]
      unfold newAt movedTo at ih ⊢
      rw [Multiset.filter_cons_of_neg _ hat, Multiset.countP_cons_of_neg _ fun h => hat h.1]
      exact ih

theorem Claim.mem_bookable (h : c.At staff date time) :
    c.slot ∈ d.bookable staff date time := by
  obtain ⟨rfl, rfl, rfl⟩ := h
  simp [BookingSchema.bookable, BookingSchema.covering, c.mem, c.active, c.occurs, c.room]

/-- Claims of different slots at a time are at most as many as the slots there. -/
theorem countP_at_le (apart : (claims.map fun c => c.slot.id).Nodup) :
    claims.countP (Claim.At staff date time)
      ≤ (d.bookable staff date time).length := by
  have sub : (claims.filter (Claim.At staff date time)).map (fun c => c.slot.id)
      ≤ ((d.bookable staff date time).map TimeSlot.id : List SlotId) := by
    refine (Multiset.le_iff_subset (Multiset.nodup_of_le ?_ apart)).2 fun id hid => ?_
    · exact Multiset.map_le_map (Multiset.filter_le _ _)
    · obtain ⟨c, hc, rfl⟩ := Multiset.mem_map.1 hid
      exact List.mem_map.2 ⟨c.slot, Claim.mem_bookable (Multiset.mem_filter.1 hc).2, rfl⟩
  have := Multiset.card_le_card sub
  rwa [Multiset.card_map, ← Multiset.countP_eq_card_filter, Multiset.coe_card,
    List.length_map] at this

theorem le_largest {s : TimeSlot} (h : s ∈ d.bookable staff date time) :
    s.capacity.toNat ≤ d.largest staff date time :=
  Finset.le_sup (f := fun s : TimeSlot => s.capacity.toNat)
    (List.mem_toFinset.2 (List.mem_filter.1 h).1)

/-- A claim that is made where the count was below the capacity leaves the load within the limit. -/
theorem load_cons_le_limit (apart : ((c ::ₘ claims).map fun c => c.slot.id).Nodup)
    (hat : c.At staff date time)
    (count : rows.countP (fun b => takes b staff date time && some b.id != c.moved)
      < c.slot.capacity.toNat) :
    load staff date time rows (c ::ₘ claims) ≤ d.limit staff date time := by
  have counted : standing staff date time rows ∪ movedTo staff date time (c ::ₘ claims)
      ⊆ ((rows.filter fun b => takes b staff date time && some b.id != c.moved).map
        Booking.id).toFinset ∪ movedTo staff date time (c ::ₘ claims) := by
    intro id hid
    rcases Finset.mem_union.1 hid with hid | hid
    · obtain ⟨b, hb, htakes, rfl⟩ := mem_standing.1 hid
      by_cases same : c.moved = some b.id
      · exact Finset.mem_union_right _ (mem_movedTo.2 ⟨c, Multiset.mem_cons_self _ _, hat, same⟩)
      · refine Finset.mem_union_left _ (List.mem_toFinset.2 (List.mem_map.2
          ⟨b, List.mem_filter.2 ⟨hb, ?_⟩, rfl⟩))
        simp [htakes, Ne.symm same]
    · exact Finset.mem_union_right _ hid
  have few := (Finset.card_le_card counted).trans (Finset.card_union_le _ _)
  have less := List.toFinset_card_le ((rows.filter fun b =>
    takes b staff date time && some b.id != c.moved).map Booking.id)
  rw [List.length_map, ← List.countP_eq_length_filter] at less
  have claimed : (movedTo staff date time (c ::ₘ claims)).card
      + newAt staff date time (c ::ₘ claims) ≤ (d.bookable staff date time).length :=
    card_movedTo_add_newAt_le.trans (countP_at_le apart)
  have most := le_largest (Claim.mem_bookable hat)
  unfold load BookingSchema.limit
  omega

end Load

/-! ## Every step -/

/-- A call and the stage it is at. -/
abbrev StagedCall (d : BookingSchema) : Type := Session × Stage d

/-- The slots whose rows are held. -/
def heldSlots (calls : Multiset (StagedCall d)) : Multiset SlotId :=
  calls.filterMap fun p => p.2.slotId?

/-- What is claimed. -/
def claims (calls : Multiset (StagedCall d)) : Multiset (Claim d) :=
  calls.filterMap fun p => p.2.claim?

/-- Every call keeps to what it can ask at its stage, no slot is held twice, numbers are distinct,
and no time has and may yet get more bookings than the limit. -/
structure Within (d : BookingSchema) (s : DatabaseState) (calls : Multiset (StagedCall d)) :
    Prop where
  sessions : calls.map Prod.fst = s.sessions
  staged : ∀ p ∈ calls, Staged (fun _ _ => True) p.2 p.1.rest
  fits : ∀ p ∈ calls, p.2.Fits p.1.connection
  apart : (heldSlots calls).Nodup
  numbered : (s.bookings.map Booking.id).Nodup
  load_le : ∀ staff date time,
    load staff date time s.bookings (claims calls) ≤ d.limit staff date time

section Cons

variable {s : Session} {st : Stage d} {calls : Multiset (StagedCall d)}

theorem heldSlots_cons_none (h : st.slotId? = none) :
    heldSlots ((s, st) ::ₘ calls) = heldSlots calls := Multiset.filterMap_cons_none _ _ h

theorem heldSlots_cons_some {id : SlotId} (h : st.slotId? = some id) :
    heldSlots ((s, st) ::ₘ calls) = id ::ₘ heldSlots calls := Multiset.filterMap_cons_some _ _ _ h

theorem claims_cons_none (h : st.claim? = none) : claims ((s, st) ::ₘ calls) = claims calls :=
  Multiset.filterMap_cons_none _ _ h

theorem claims_cons_some {c : Claim d} (h : st.claim? = some c) :
    claims ((s, st) ::ₘ calls) = c ::ₘ claims calls := Multiset.filterMap_cons_some _ _ _ h

end Cons

/-- The slots that are claimed are held. -/
theorem map_slot_claims_le (calls : Multiset (StagedCall d)) :
    (claims calls).map (fun c => c.slot.id) ≤ heldSlots calls := by
  induction calls using Multiset.induction_on with
  | empty => exact le_refl _
  | cons p calls ih =>
    obtain ⟨s, st⟩ := p
    cases st with
    | outside | inside =>
      rw [claims_cons_none rfl, heldSlots_cons_none rfl]
      exact ih
    | held =>
      rw [claims_cons_none rfl, heldSlots_cons_some rfl]
      exact ih.trans (Multiset.le_cons_self _ _)
    | claimed | written =>
      rw [claims_cons_some rfl, heldSlots_cons_some rfl, Multiset.map_cons]
      exact Multiset.cons_le_cons _ ih

theorem within_initial : Within d .initial 0 where
  sessions := rfl
  staged _ hp := absurd hp (Multiset.notMem_zero _)
  fits _ hp := absurd hp (Multiset.notMem_zero _)
  apart := Multiset.nodup_zero
  numbered := List.nodup_nil
  load_le _ _ _ := Nat.zero_le _

/-- A call that is made is outside a transaction. -/
theorem Within.call {s : DatabaseState} {calls : Multiset (StagedCall d)} {q : BookingQuery}
    (within : Within d s calls) (h : q.changes = true) :
    Within d ⟨s.bookings, s.sessions ++ [.start q]⟩ ((.start q, .outside) ::ₘ calls) where
  sessions := by
    rw [Multiset.map_cons, within.sessions]
    exact (Multiset.coe_eq_coe.2 (List.perm_append_singleton _ _)).symm
  staged := Multiset.forall_mem_cons.2 ⟨staged_start h, within.staged⟩
  fits := Multiset.forall_mem_cons.2 ⟨trivial, within.fits⟩
  apart := by
    rw [heldSlots_cons_none rfl]
    exact within.apart
  numbered := within.numbered
  load_le := by
    rw [claims_cons_none rfl]
    exact within.load_le

section Change

variable {others : List Session} {rows rows' : List Booking} {st st' : Stage d}
  {s s' : Session} {calls : Multiset (StagedCall d)}

theorem notMem_heldSlots {id : SlotId} (hothers : calls.map Prod.fst = others)
    (fits : ∀ p ∈ calls, p.2.Fits p.1.connection) (free : Session.SlotFree others id) :
    id ∉ heldSlots calls := by
  intro held
  obtain ⟨p, hp, hst⟩ := (Multiset.mem_filterMap _ _).1 held
  have hs : p.1 ∈ others := by
    rw [← Multiset.mem_coe, ← hothers]
    exact Multiset.mem_map_of_mem Prod.fst hp
  obtain ⟨t, ht, hid⟩ := (fits p hp).holds hst
  exact free p.1 hs t ht hid

/-- Where a call goes from one stage to another, no slot is held twice. -/
theorem nodup_heldSlots_of_change (change : Change rows others st st' rows')
    (fits : ∀ p ∈ calls, p.2.Fits p.1.connection) (hothers : calls.map Prod.fst = others)
    (apart : (heldSlots ((s, st) ::ₘ calls)).Nodup) : (heldSlots ((s', st') ::ₘ calls)).Nodup := by
  have less : (heldSlots calls).Nodup :=
    Multiset.nodup_of_le (Multiset.filterMap_le_filterMap _ (Multiset.le_cons_self _ _)) apart
  cases change with
  | leave | stay | commit | cancel =>
    rw [heldSlots_cons_none rfl]
    exact less
  | lock free =>
    rw [heldSlots_cons_some rfl]
    exact Multiset.nodup_cons.2 ⟨notMem_heldSlots hothers fits free, less⟩
  | claim | write =>
    rw [heldSlots_cons_some rfl] at apart ⊢
    exact apart

/-- Where a call goes from one stage to another, no time has and may yet get more than the limit. -/
theorem load_le_of_change (change : Change rows others st st' rows')
    (apart : (heldSlots ((s', st') ::ₘ calls)).Nodup)
    (load_le : ∀ staff date time,
      load staff date time rows (claims ((s, st) ::ₘ calls)) ≤ d.limit staff date time)
    (staff : StaffId) (date : Date) (time : TimeOfDay) :
    load staff date time rows' (claims ((s', st') ::ₘ calls)) ≤ d.limit staff date time := by
  have before := load_le staff date time
  have given_up : load staff date time rows (claims calls) ≤ d.limit staff date time := by
    refine le_trans ?_ before
    cases h : st.claim? with
    | none => rw [claims_cons_none h]
    | some c =>
      rw [claims_cons_some h]
      exact load_le_cons
  cases change with
  | leave | stay =>
    rw [claims_cons_none rfl]
    exact given_up
  | lock =>
    rw [claims_cons_none rfl]
    exact given_up
  | @claim c count =>
    have slots := Multiset.nodup_of_le (map_slot_claims_le _) apart
    rw [claims_cons_some rfl] at slots ⊢
    by_cases at_ : c.At staff date time
    · obtain ⟨rfl, rfl, rfl⟩ := at_
      exact load_cons_le_limit slots ⟨rfl, rfl, rfl⟩ count
    · rw [load_cons_of_not_at at_]
      exact given_up
  | write c =>
    rw [claims_cons_some rfl] at before ⊢
    exact before
  | commit allows =>
    rw [claims_cons_none rfl]
    rw [claims_cons_some rfl] at before
    exact (load_put_le_cons allows).trans before
  | cancel cancelled =>
    rw [claims_cons_none rfl]
    refine (load_put_le ?_).trans given_up
    simp [takes, cancelled]

end Change

theorem Change.nodup {rows rows' : List Booking} {others : List Session} {st st' : Stage d}
    (change : Change rows others st st' rows') (numbered : (rows.map Booking.id).Nodup) :
    (rows'.map Booking.id).Nodup := by
  cases change with
  | commit | cancel => exact nodup_putBooking numbered _
  | _ => exact numbered

/-- A call that is answered goes from its stage to another, and the others stay where they are. -/
theorem Within.answer {rows rows' : List Booking} {others : List Session} {q : BookingQuery}
    {c c' : Connection} {i : DatabaseRequest} {r : i.Answer}
    {next : i.Answer → Program DatabaseRequest DatabaseRequest.Answer
      (Except BookingError q.Answer)}
    {sessions sessions' : List Session} {calls : Multiset (StagedCall d)}
    (within : Within d ⟨rows, sessions⟩ calls)
    (asked : (sessions : Multiset Session) = ⟨q, .ask i next, c⟩ ::ₘ (others : Multiset Session))
    (answered : (sessions' : Multiset Session) = ⟨q, next r, c'⟩ ::ₘ (others : Multiset Session))
    (answers : Answers d rows others c i r c' rows') :
    ∃ calls, Within d ⟨rows', sessions'⟩ calls := by
  have mem : (⟨q, .ask i next, c⟩ : Session) ∈ calls.map Prod.fst := by
    rw [within.sessions, asked]
    exact Multiset.mem_cons_self _ _
  obtain ⟨⟨s, st⟩, hp, rfl⟩ := Multiset.mem_map.1 mem
  obtain ⟨calls, rfl⟩ := Multiset.exists_cons_of_mem hp
  have hothers : calls.map Prod.fst = others := by
    have all := within.sessions.trans asked
    rw [Multiset.map_cons] at all
    exact (Multiset.cons_inj_right _).1 all
  obtain ⟨staged, stageds⟩ := Multiset.forall_mem_cons.1 within.staged
  obtain ⟨fit, fits⟩ := Multiset.forall_mem_cons.1 within.fits
  obtain ⟨st', staged', fit', change⟩ := Staged.answer staged fit answers
  have apart : (heldSlots ((⟨q, next r, c'⟩, st') ::ₘ calls)).Nodup :=
    nodup_heldSlots_of_change change fits hothers within.apart
  exact ⟨(⟨q, next r, c'⟩, st') ::ₘ calls,
    { sessions := by rw [Multiset.map_cons, hothers, answered]
      staged := Multiset.forall_mem_cons.2 ⟨staged', stageds⟩
      fits := Multiset.forall_mem_cons.2 ⟨fit', fits⟩
      apart
      numbered := change.nodup within.numbered
      load_le := load_le_of_change change apart within.load_le }⟩

/-- What one step preserves. -/
theorem Within.step {s s' : DatabaseState} (within : ∃ calls, Within d s calls)
    (step : d.Step s s') : ∃ calls, Within d s' calls := by
  obtain ⟨calls, within⟩ := within
  cases step with
  | call h => exact ⟨_, within.call h⟩
  | answer answers =>
    exact within.answer (Multiset.coe_eq_coe.2 List.perm_middle)
      (Multiset.coe_eq_coe.2 List.perm_middle) answers

/-- What every run preserves. -/
theorem BookingSchema.Reachable.within {s : DatabaseState} (reachable : d.Reachable s) :
    ∃ calls, Within d s calls := by
  induction reachable with
  | refl => exact ⟨0, within_initial⟩
  | tail _ step ih => exact Within.step ih step

theorem BookingSchema.Reachable.confirmedAt_le {s : DatabaseState} (reachable : d.Reachable s)
    (staff : StaffId) (date : Date) (time : TimeOfDay) :
    s.confirmedAt staff date time ≤ d.limit staff date time := by
  obtain ⟨calls, within⟩ := reachable.within
  exact (countP_le_load within.numbered).trans (within.load_le staff date time)

end Dialogue
