import Dialogue.Proofs.Booking.Changes
import Dialogue.Proofs.Booking.Turns

/-!
# What a call changes in the tables

Tables answer a query or fail to, and a history of a call takes them from one state to another
(`Serves`). Nothing but a change that was asked for changes them, and a call asks for one at most,
on the ground of what they told before. So whatever the context holds, and whatever the reply or
the text, a call leaves the tables as they are, or adds one booking of the participant's own, or
cancels or moves one of the participant's own that stands (`ownChange_of_serves`); all other
bookings stay as they are.
-/

namespace Dialogue

namespace BookingTables

/-- The tables answer a query, or fail to and stay as they are. -/
def Replies (t : BookingTables) (x : BookingExchange) (t' : BookingTables) : Prop :=
  (∃ now, x.2 = .ok (answer now x.1 t).1 ∧ t' = (answer now x.1 t).2)
    ∨ ∃ e, x.2 = .error e ∧ t' = t

/-- The tables reply to all that a history asks, one after another. -/
def Serves : BookingTables → List BookingExchange → BookingTables → Prop
  | t, [], t' => t' = t
  | t, x :: h, t' => ∃ u, t.Replies x u ∧ Serves u h t'

variable {t t' : BookingTables}

theorem serves_append : ∀ {t : BookingTables} {h₁ h₂ : List BookingExchange},
    t.Serves (h₁ ++ h₂) t' ↔ ∃ u, t.Serves h₁ u ∧ u.Serves h₂ t'
  | t, [], h₂ => by simp [Serves]
  | t, x :: h₁, h₂ => by
    simp only [List.cons_append, Serves, serves_append]
    constructor
    · rintro ⟨u, hx, w, h₁, h₂⟩
      exact ⟨w, ⟨u, hx, h₁⟩, h₂⟩
    · rintro ⟨w, ⟨u, hx, h₁⟩, h₂⟩
      exact ⟨u, hx, w, h₁, h₂⟩

theorem answer_of_not_changes (now : Instant) {q : BookingQuery} (hq : q.changes = false)
    (t : BookingTables) : (answer now q t).2 = t := by
  cases q <;> first | rfl | cases hq

theorem Replies.eq_of_not_changes {x : BookingExchange} (h : t.Replies x t')
    (hx : x.1.changes = false) : t' = t := by
  rcases h with ⟨now, -, rfl⟩ | ⟨e, -, rfl⟩
  · exact answer_of_not_changes now hx t
  · rfl

theorem Serves.eq_of_quiet : ∀ {t : BookingTables} {h : List BookingExchange}, t.Serves h t' →
    Quiet h → t' = t
  | _, [], served, _ => served
  | t, x :: h, ⟨u, hx, served⟩, quiet => by
    obtain rfl := hx.eq_of_not_changes (quiet x (by simp))
    exact served.eq_of_quiet fun y hy => quiet y (by simp [hy])

/-- While nothing is changed, all answers are those of one state. -/
theorem Serves.replies : ∀ {t : BookingTables} {h : List BookingExchange}, t.Serves h t' →
    Quiet h → ∀ x ∈ h, t.Replies x t
  | _, [], _, _ => by simp
  | t, x :: h, ⟨u, hx, served⟩, quiet => by
    obtain rfl := hx.eq_of_not_changes (quiet x (by simp))
    intro y hy
    rcases List.mem_cons.1 hy with rfl | hy
    · exact hx
    · exact served.replies (fun z hz => quiet z (by simp [hz])) y hy

theorem Replies.answered {q : BookingQuery} {a : q.Answer} (h : t.Replies ⟨q, .ok a⟩ t') :
    ∃ now, a = (answer now q t).1 ∧ t' = (answer now q t).2 := by
  rcases h with ⟨now, h, rfl⟩ | ⟨e, h, -⟩
  · exact ⟨now, Except.ok.inj h, rfl⟩
  · cases h

/-- The tables' answers, none of which fails. -/
def reply (now : Instant) (q : BookingQuery) (t : BookingTables) :
    Except BookingError q.Answer × BookingTables :=
  (.ok (answer now q t).1, (answer now q t).2)

theorem serves_history {α : Type} (now : Instant) :
    ∀ (p : Program BookingQuery (fun q => Except BookingError q.Answer) α) (t : BookingTables),
      t.Serves (p.history (reply now) t) (p.run (reply now) t).2
  | .done _, _ => rfl
  | .ask q next, t =>
    ⟨_, .inl ⟨now, rfl, rfl⟩, serves_history now (next (.ok (answer now q t).1)) _⟩

/-! ## One booking -/

/-- The first booking that a test finds is changed where it stands. -/
theorem exists_updateFirst {p : Booking → Bool} (f : Booking → Booking) {b : Booking} :
    ∀ {l : List Booking}, l.find? p = some b →
      ∃ l₁ l₂, l = l₁ ++ b :: l₂ ∧ updateFirst p f l = l₁ ++ f b :: l₂
  | c :: r, h => by
    unfold updateFirst
    cases hc : p c with
    | true =>
      rw [List.find?_cons_of_pos hc, Option.some.injEq] at h
      subst h
      exact ⟨[], r, rfl, by rw [if_pos rfl]; rfl⟩
    | false =>
      rw [List.find?_cons_of_neg (by simp [hc])] at h
      obtain ⟨l₁, l₂, rfl, hr⟩ := exists_updateFirst f h
      exact ⟨c :: l₁, l₂, rfl, by rw [if_neg (by simp), hr]; rfl⟩

/-- A booking that is found under a number stands under it if it stands at all. -/
theorem find?_stands {account : AccountId} {id : BookingId} {b : Booking} {l : List Booking}
    (hb : (l.find? fun b => b.id == id && b.accountId == account) = some b)
    (stands_ : b.status = .confirmed) : l.find? (stands account id) = some b := by
  obtain ⟨hp, l₁, l₂, rfl, hl⟩ := List.find?_eq_some_iff_append.1 hb
  refine List.find?_eq_some_iff_append.2 ⟨?_, l₁, l₂, rfl, fun c hc => ?_⟩
  · unfold stands
    rw [hp, stands_]
    rfl
  · have hn := hl c hc
    simp only [Bool.not_eq_true', stands] at hn ⊢
    rw [hn]
    rfl

/-- The tables after a call: as they were, or with one booking of the participant's own added, or
with one of the participant's own that stood cancelled or moved. -/
inductive OwnChange (v : Visit) (t : BookingTables) : BookingTables → Prop
  | nothing : OwnChange v t t
  | added (b : Booking) (n : Int64) : b.accountId = v.accountId → b.phone = v.phone →
    OwnChange v t { t with bookings := t.bookings ++ [b], lastNumber := n }
  | cancelled (b : Booking) (l₁ l₂ : List Booking) : t.bookings = l₁ ++ b :: l₂ →
    b.accountId = v.accountId → b.phone = v.phone → b.status = .confirmed →
    OwnChange v t { t with bookings := l₁ ++ { b with status := .cancelled } :: l₂ }
  | moved (b : Booking) (slot : TimeSlot) (date : Date) (l₁ l₂ : List Booking) :
    t.bookings = l₁ ++ b :: l₂ →
    b.accountId = v.accountId → b.phone = v.phone → b.status = .confirmed →
    OwnChange v t { t with bookings := l₁ ++ BookingTables.moved b slot date :: l₂ }

variable {v : Visit}

theorem find?_of_owns {g : List BookingExchange} {id : BookingId} {b : Booking}
    (told : ∀ x ∈ g, t.Replies x t) (own : v.Owns g id b) :
    t.bookings.find? (stands v.accountId id) = some b := by
  obtain ⟨now, hb, -⟩ := (told _ own.told).answered
  exact find?_stands hb.symm own.stands

theorem stands_of_find? {account : AccountId} {id : BookingId} {b : Booking}
    (h : t.bookings.find? (stands account id) = some b) :
    b.id = id ∧ b.accountId = account ∧ b.status = .confirmed := by
  have hb := List.find?_some h
  simp only [stands, Bool.and_eq_true, beq_iff_eq] at hb
  exact ⟨hb.1.1, hb.1.2, hb.2⟩

/-- A change that is grounded in what the tables told is one of the participant's own. -/
theorem ownChange_of_grounds {p : BookingProgress} {g : List BookingExchange} {q : BookingQuery}
    (grounds : v.Grounds p g q) (told : ∀ x ∈ g, t.Replies x t) {r : Except BookingError q.Answer}
    (reply : t.Replies ⟨q, r⟩ t') : OwnChange v t t' := by
  rcases reply with ⟨now, -, rfl⟩ | ⟨e, -, rfl⟩
  case inr => exact .nothing
  have created (department : DepartmentId) (slot : TimeSlot) (date : Date)
      (answers : Option Questionnaire) :
      OwnChange v t (t.create (v.request department slot date answers) now).2 := by
    unfold create
    dsimp only
    split
    · exact .added _ _ rfl rfl
    · exact .nothing
  cases grounds with
  | answered => exact created _ _ _ _
  | picked => exact created _ _ _ _
  | @cancelled id b own =>
    have hfind := find?_of_owns told own
    obtain ⟨rfl, haccount, hstatus⟩ := stands_of_find? hfind
    obtain ⟨l₁, l₂, hl, hupdate⟩ :=
      exists_updateFirst (fun b => { b with status := .cancelled }) hfind
    show OwnChange v t (t.cancel v.accountId b.id).2
    unfold cancel
    split
    · show OwnChange v t { t with bookings := updateFirst _ _ t.bookings }
      rw [hupdate]
      exact .cancelled b l₁ l₂ hl haccount own.phone hstatus
    · exact .nothing
  | @moved id slotId slot date b hstep hid hslot fits own =>
    have hfind := find?_of_owns told own
    obtain ⟨rfl, haccount, hstatus⟩ := stands_of_find? hfind
    obtain ⟨l₁, l₂, hl, hupdate⟩ := exists_updateFirst (fun b => moved b slot date) hfind
    show OwnChange v t (t.reschedule v.accountId b.id slot date).2
    unfold reschedule
    rw [hfind]
    dsimp only
    split
    · show OwnChange v t { t with bookings := updateFirst _ _ t.bookings }
      rw [hupdate]
      exact .moved b slot date l₁ l₂ hl haccount own.phone hstatus
    · exact .nothing

/-- A history without a change, or with one. -/
theorem quiet_or_changes (h : List BookingExchange) :
    Quiet h ∨ ∃ h₁ x h₂, h = h₁ ++ x :: h₂ ∧ Quiet h₁ ∧ x.1.changes = true := by
  induction h with
  | nil => exact .inl (by simp [Quiet])
  | cons x h ih =>
    cases hx : x.1.changes with
    | true => exact .inr ⟨[], x, h, rfl, by simp [Quiet], hx⟩
    | false =>
      have cons {g : List BookingExchange} (quiet : Quiet g) : Quiet (x :: g) := by
        intro y hy
        rcases List.mem_cons.1 hy with rfl | hy
        · exact hx
        · exact quiet y hy
      rcases ih with quiet | ⟨h₁, y, h₂, rfl, quiet, hy⟩
      · exact .inl (cons quiet)
      · exact .inr ⟨x :: h₁, y, h₂, rfl, cons quiet, hy⟩

/-- A booking stays as it is unless it is the participant's own and stands. -/
theorem OwnChange.getElem? (h : OwnChange v t t') {i : Nat} {b : Booking}
    (hb : t.bookings[i]? = some b)
    (other : b.accountId ≠ v.accountId ∨ b.phone ≠ v.phone ∨ b.status = .cancelled) :
    t'.bookings[i]? = some b := by
  have changed {b' : Booking} {l₁ l₂ : List Booking} (hl : t.bookings = l₁ ++ b' :: l₂)
      (haccount : b'.accountId = v.accountId) (hphone : b'.phone = v.phone)
      (hstatus : b'.status = .confirmed) (c : Booking) : (l₁ ++ c :: l₂)[i]? = some b := by
    rw [hl] at hb
    rcases Nat.lt_trichotomy i l₁.length with hi | rfl | hi
    · rw [List.getElem?_append_left hi] at hb ⊢
      exact hb
    · rw [List.getElem?_append_right (Nat.le_refl _), Nat.sub_self] at hb
      obtain rfl := Option.some.inj hb
      simp [haccount, hphone, hstatus] at other
    · rw [List.getElem?_append_right (by omega)] at hb ⊢
      obtain ⟨k, hk⟩ : ∃ k, i - l₁.length = k + 1 := ⟨i - l₁.length - 1, by omega⟩
      rw [hk] at hb ⊢
      exact hb
  cases h with
  | nothing => exact hb
  | added c n => exact (List.getElem?_append_left (List.getElem?_eq_some_iff.1 hb).1).trans hb
  | cancelled c l₁ l₂ hl haccount hphone hstatus => exact changed hl haccount hphone hstatus _
  | moved c slot date l₁ l₂ hl haccount hphone hstatus =>
    exact changed hl haccount hphone hstatus _

/-- Whatever the context holds and whatever fails, a call changes nothing but one booking of the
participant's own: it adds one, or cancels or moves one that stands. Every other booking stays as
it is. -/
theorem ownChange_of_serves (call : FlowCall) (c : Context) {h : List BookingExchange}
    {r : Except BookingError ReplyHandling × Context} (run : (call.work c).Runs h r)
    (served : t.Serves h t') : OwnChange call.visit t t'
      ∧ ∀ (i : Nat) (b : Booking), t.bookings[i]? = some b →
        b.accountId ≠ call.visit.accountId ∨ b.phone ≠ call.visit.phone ∨ b.status = .cancelled →
        t'.bookings[i]? = some b := by
  have traced := call.acts_work c
  suffices change : OwnChange call.visit t t' from ⟨change, fun i b => change.getElem?⟩
  rcases quiet_or_changes h with quiet | ⟨h₁, x, h₂, rfl, quiet, hx⟩
  · obtain rfl := served.eq_of_quiet quiet
    exact .nothing
  · obtain ⟨u, served₁, w, hw, served₂⟩ := serves_append.1 served
    obtain rfl := served₁.eq_of_quiet quiet
    obtain ⟨-, p, -, grounds⟩ := traced.allowed run hx
    -- A second change would be asked for after the first one.
    have quiet₂ : Quiet h₂ := by
      intro y hy
      obtain ⟨k₁, k₂, rfl⟩ := List.append_of_mem hy
      cases hy' : y.1.changes with
      | false => rfl
      | true =>
        have run' : (call.work c).Runs ((h₁ ++ x :: k₁) ++ y :: k₂) r := by simpa using run
        have := (traced.allowed run' hy').1 x (by simp)
        rw [hx] at this
        cases this
    obtain rfl := served₂.eq_of_quiet quiet₂
    exact ownChange_of_grounds grounds (served₁.replies quiet) hw

end BookingTables

/-! A practice with a member of staff, and a monday and a tuesday there. -/

namespace Practice

def account : AccountId := ⟨⟨1⟩⟩

def monday : Date := (Date.ofCivil? ⟨2026, 3, 9⟩).get rfl

def tuesday : Date := (Date.ofCivil? ⟨2026, 3, 10⟩).get rfl

def noon : TimeOfDay := .ofSecond 43200

def now : Instant := (Instant.ofSeconds? 1773043200).get rfl

def staffed : List BookingChange :=
  [.addDepartment account "Dental" none, .addStaff account ⟨1⟩ "Dr. Rao"]

end Practice

/-! A context that nobody's flow has left, which asks to move a participant's second booking. -/

namespace ForgedContext

open Practice

def booked (phone : String) : BookingChange :=
  .create ⟨account, ⟨1⟩, ⟨2⟩, ⟨3⟩, phone, none, monday, noon, none, none⟩ now

def tables : BookingTables :=
  BookingTables.empty.changeAll (staffed ++ [.addSlot account ⟨2⟩ .monday noon 2,
    .addSlot account ⟨2⟩ .tuesday noon 2, booked "919800000001", booked "919800000002"])

def context : Context :=
  ⟨[], some ⟨.selectNewSlot, "check", .check .standard, none, some ⟨2⟩, none, none, some ⟨6⟩⟩, none⟩

def call : FlowCall :=
  .reply ⟨account, "919800000002", monday, noon, 7⟩ "booking_newslot_4_20260310"

def history : List BookingExchange := (call.work context).history (BookingTables.reply now) tables

def after : BookingTables := ((call.work context).run (BookingTables.reply now) tables).2

end ForgedContext

open BookingTables ForgedContext Practice in
theorem BookingTables.ownChange_forgedContext : (∃ r, (call.work context).Runs history r)
    ∧ tables.Serves history after
    ∧ after.bookings.map (fun b => (b.phone, b.date.day))
      = [("919800000001", 20521), ("919800000002", 20522)]
    ∧ OwnChange call.visit tables after ∧ after.bookings[0]? = tables.bookings[0]? := by
  have run := Program.runs_history (BookingTables.reply now) (call.work context) tables
  have served : tables.Serves history after := serves_history now (call.work context) tables
  obtain ⟨change, others⟩ := ownChange_of_serves call context run served
  refine ⟨⟨_, run⟩, served, by decide +kernel, change, ?_⟩
  have first : tables.bookings[0]?.map (·.phone) = some "919800000001" := by rfl
  obtain ⟨b, hb, hphone⟩ := Option.map_eq_some_iff.1 first
  rw [hb]
  refine others 0 b hb (.inr (.inl ?_))
  rw [hphone]
  decide

end Dialogue
