import Dialogue.Conversation.Context
import Dialogue.Proofs.Calendar.Text
import Dialogue.Proofs.Graph.Contents

/-!
# Contexts are stored and loaded

Bookings and questions in progress are read back as they were written
(`BookingProgress.ofJson?_toJson`, `Questionnaire.ofJson?_toJson`). No variable has a reserved key
after a load, and none gets one (`Context.Clean`), so what is stored under the reserved keys is what
the conversation is in the middle of, and nothing else can put something there
(`Context.ofJson?_toJson_edited`).
-/

namespace Dialogue

open FieldReader Json

/-! ## What a participant is in the middle of -/

theorem Json.int64?_ofInt64 (n : Int64) : int64? (ofInt64 n) = some n := by
  have has : Text.Range.signed64.has n.toInt = true :=
    Text.Range.has_iff.2 ⟨n.le_toInt, Int.le_sub_one_of_lt n.toInt_lt⟩
  simp [int64?, ofInt64, integer?_of_has has]

/-- A number that may be left out is read as the number of what was written. -/
theorem Json.elim_nullable?_int64 {α : Type} (number : α → Int64) (a : Option α) :
    a.elim (some none) (nullable? int64? ∘ fun a => ofInt64 (number a))
      = some (a.map number) := by
  cases a with
  | none => rfl
  | some a => exact congrArg (Option.map some) (int64?_ofInt64 (number a))

@[simp]
theorem BookingStep.ofJson?_name (s : BookingStep) : ofJson? (.str s.name) = some s := by
  cases s <;> rfl

@[simp]
theorem BookingFlow.ofJson?_toJson (f : BookingFlow) : ofJson? f.toJson = some f := by
  cases f with
  | book settings =>
    have kind : choice? [("book", false), ("check", true)] (.str "book") = some false := rfl
    exact record?_obj (by
      simp [ofSettings?, kind, BookAppointment.ofJson?_toJson, -bind_pure_comp])
  | check settings =>
    have kind : choice? [("book", false), ("check", true)] (.str "check") = some true := rfl
    exact record?_obj (by
      simp [ofSettings?, kind, CheckBookings.ofJson?_toJson, -bind_pure_comp])

theorem BookingProgress.ofJson?_toJson (p : BookingProgress) : ofJson? p.toJson = some p :=
  record?_obj (by
    simp [fields, -bind_pure_comp, elim_nullable?_int64,
      Json.elim_nullable? Date.ofJson?_toJson fun _ => rfl,
      show DepartmentId.mk ∘ DepartmentId.number = id from rfl,
      show StaffId.mk ∘ StaffId.number = id from rfl,
      show SlotId.mk ∘ SlotId.number = id from rfl,
      show BookingId.mk ∘ BookingId.number = id from rfl])

theorem Question.ofJson?_toJson (q : Question) : ofJson? q.toJson = some q :=
  record?_obj (by simp [fields, -bind_pure_comp])

theorem Answer.ofJson?_toJson (a : Answer) : ofJson? a.toJson = some a :=
  record?_obj (by simp [fields, Question.fields, -bind_pure_comp])

theorem Questionnaire.ofJson?_toJson (q : Questionnaire) : ofJson? q.toJson = some q :=
  record?_obj (by
    simp [fields, -bind_pure_comp, list?_map Question.ofJson?_toJson,
      list?_map Answer.ofJson?_toJson])

/-! ## Keys of members -/

namespace Members

theorem get?_eq_none_iff {key : String} : ∀ {m : Members},
    m.get? key = none ↔ key ∉ m.map Prod.fst
  | [] => by simp [get?]
  | (k, v) :: m => by
    by_cases same : k = key
    · simp [get?, same]
    · simp [get?, same, Ne.symm same, get?_eq_none_iff (m := m)]

theorem keys_erase (key : String) : ∀ m : Members,
    (m.erase key).map Prod.fst = (m.map Prod.fst).erase key
  | [] => rfl
  | (k, v) :: m => by
    by_cases same : k = key
    · simp [erase, same]
    · simp [erase, same, List.erase_cons_tail, keys_erase key m]

theorem mem_keys_insert {key other : String} {value : Json} : ∀ {m : Members},
    other ∈ (m.insert key value).map Prod.fst → other = key ∨ other ∈ m.map Prod.fst
  | [], h => by simpa [insert] using h
  | (k, v) :: m, h => by
    by_cases same : k = key
    · simp only [insert, if_pos same, List.map_cons, List.mem_cons] at h ⊢
      exact h.imp_right .inr
    · by_cases before : key < k
      · simpa [insert, same, before] using h
      · simp only [insert, if_neg same, if_neg before, List.map_cons, List.mem_cons] at h ⊢
        rcases h with h | h
        · exact .inr (.inl h)
        · exact (mem_keys_insert h).imp_right .inr

theorem erase_of_get?_eq_none {key : String} : ∀ {m : Members}, m.get? key = none →
    m.erase key = m
  | [], _ => rfl
  | (k, v) :: m, h => by
    by_cases same : k = key
    · simp [get?, same] at h
    · simp only [get?, if_neg same] at h
      simp [erase, same, erase_of_get?_eq_none h]

end Members

namespace Context

section Insert

variable {m : Members} {key : String} (value : Option Json)

theorem get?_insert?_self (absent : m.get? key = none) :
    (insert? m key value).get? key = value := by
  cases value with
  | none => exact absent
  | some value => exact Members.get?_insert_self key value m

theorem get?_insert?_of_ne {other : String} (h : other ≠ key) :
    (insert? m key value).get? other = m.get? other := by
  cases value with
  | none => rfl
  | some value => exact Members.get?_insert_of_ne h value m

theorem erase_insert? (absent : m.get? key = none) : (insert? m key value).erase key = m := by
  cases value with
  | none => exact Members.erase_of_get?_eq_none absent
  | some value => exact Members.erase_insert_of_get?_eq_none absent value

end Insert

theorem bind_map_toJson {α : Type} {f : Json → Option α} {g : α → Json}
    (read : ∀ a, f (g a) = some a) (a : Option α) : (a.map g).bind f = a := by
  cases a with
  | none => rfl
  | some a => exact read a

/-- No variable has a reserved key. -/
def Clean (c : Context) : Prop := ∀ key ∈ c.vars.map Prod.fst, isReserved key = false

theorem isReserved_iff {key : String} :
    isReserved key = true ↔ key = bookingKey ∨ key = captureKey := by
  simp [isReserved]

/-- What is loaded is clean, since an object holds each key once. -/
theorem clean_ofMembers {m : Members} (unique : (m.map Prod.fst).Nodup) :
    (ofMembers m).Clean := by
  intro key hkey
  have keys : (ofMembers m).vars.map Prod.fst
      = ((m.map Prod.fst).erase captureKey).erase bookingKey := by
    rw [← Members.keys_erase, ← Members.keys_erase]
    rfl
  rw [keys, (unique.erase captureKey).mem_erase_iff, unique.mem_erase_iff] at hkey
  rw [← Bool.not_eq_true, isReserved_iff, not_or]
  exact ⟨hkey.1, hkey.2.1⟩

/-- What a clean context is stored as is loaded as the context. -/
theorem Clean.ofMembers_members {c : Context} (clean : c.Clean) : ofMembers c.members = c := by
  have absent (key : String) (reserved : isReserved key = true) : c.vars.get? key = none := by
    rw [Members.get?_eq_none_iff]
    intro hkey
    rw [clean key hkey] at reserved
    cases reserved
  have differ : bookingKey ≠ captureKey := by decide
  -- The reserved members are put in and taken out again in the opposite order.
  obtain ⟨vars, p, q⟩ := c
  have noBooking : vars.get? bookingKey = none := absent bookingKey rfl
  have noCapture :
      (insert? vars bookingKey (p.map BookingProgress.toJson)).get? captureKey = none := by
    rw [get?_insert?_of_ne _ differ.symm]
    exact absent captureKey rfl
  unfold ofMembers members
  dsimp only
  rw [erase_insert? _ noCapture, erase_insert? _ noBooking, get?_insert?_self _ noCapture,
    get?_insert?_of_ne _ differ, get?_insert?_self _ noBooking,
    bind_map_toJson BookingProgress.ofJson?_toJson, bind_map_toJson Questionnaire.ofJson?_toJson]

/-! ## Values of variables -/

/-- What is done to a context after it was loaded. -/
inductive Edit where
  | set (key : String) (value : Json)
  | remove (key : String)
  | merge (values : Members)
  | replaceBooking (p : Option BookingProgress)
  | replaceCapture (q : Option Questionnaire)
  | clearProgress

namespace Edit

def apply : Edit → Context → Context
  | set key value, c => c.set key value
  | remove key, c => c.remove key
  | merge values, c => c.merge values
  | replaceBooking p, c => { c with booking := p }
  | replaceCapture q, c => { c with capture := q }
  | clearProgress, c => c.clearProgress

def OfVariables : Edit → Prop
  | set _ _ | remove _ | merge _ => True
  | replaceBooking _ | replaceCapture _ | clearProgress => False

end Edit

/-- The context after edits, one after another. -/
def edited (c : Context) (edits : List Edit) : Context := edits.foldl (fun c e => e.apply c) c

theorem Clean.set {c : Context} (clean : c.Clean) (key : String) (value : Json) :
    (c.set key value).Clean := by
  unfold Context.set
  split
  · exact clean
  · rename_i free
    intro other hother
    rcases Members.mem_keys_insert hother with rfl | hother
    · exact Bool.eq_false_iff.2 free
    · exact clean other hother

theorem Clean.merge : ∀ (values : Members) {c : Context}, c.Clean → (c.merge values).Clean
  | [], _, clean => clean
  | (key, value) :: values, _, clean => Clean.merge values (clean.set key value)

theorem Clean.apply {c : Context} (clean : c.Clean) (e : Edit) : (e.apply c).Clean := by
  cases e with
  | set key value => exact clean.set key value
  | remove key =>
    intro other hother
    rw [show (Edit.apply (.remove key) c).vars.map Prod.fst = _ from Members.keys_erase key c.vars]
      at hother
    exact clean other (List.mem_of_mem_erase hother)
  | merge values => exact clean.merge values
  | replaceBooking | replaceCapture | clearProgress => exact clean

theorem Clean.edited {edits : List Edit} : ∀ {c : Context}, c.Clean → (c.edited edits).Clean := by
  induction edits with
  | nil => exact id
  | cons e edits ih => exact fun clean => ih (clean.apply e)

/-- The contexts are in the middle of the same. -/
def SameProgress (c d : Context) : Prop := d.booking = c.booking ∧ d.capture = c.capture

theorem SameProgress.trans {c d e : Context} (h : SameProgress c d) (h' : SameProgress d e) :
    SameProgress c e :=
  ⟨h'.1.trans h.1, h'.2.trans h.2⟩

theorem sameProgress_set (c : Context) (key : String) (value : Json) :
    SameProgress c (c.set key value) := by
  unfold set
  split <;> exact ⟨rfl, rfl⟩

theorem sameProgress_merge : ∀ (values : Members) (c : Context), SameProgress c (c.merge values)
  | [], _ => ⟨rfl, rfl⟩
  | (key, value) :: values, c =>
    (sameProgress_set c key value).trans (sameProgress_merge values (c.set key value))

theorem sameProgress_edited {edits : List Edit} : ∀ {c : Context},
    (∀ e ∈ edits, e.OfVariables) → SameProgress c (c.edited edits) := by
  induction edits with
  | nil => exact fun _ => ⟨rfl, rfl⟩
  | cons e edits ih =>
    intro c own
    obtain ⟨first, rest⟩ := List.forall_mem_cons.1 own
    have here : SameProgress c (e.apply c) := by
      cases e with
      | set key value => exact sameProgress_set c key value
      | remove key => exact ⟨rfl, rfl⟩
      | merge values => exact sameProgress_merge values c
      | replaceBooking | replaceCapture | clearProgress => exact first.elim
    exact here.trans (ih rest)

/-- Take any object that is loaded, and edit the context in any way. What it is stored as is loaded
as the same context, none of its variables has a reserved key, and whatever is set, merged in or
taken away, under any keys, the booking and the questions in progress stay what they were, also when
the context is then stored and loaded. -/
theorem ofJson?_toJson_edited {m : Members} (unique : (m.map Prod.fst).Nodup)
    (edits : List Edit) :
    let c := (ofMembers m).edited edits
    ofJson? c.toJson = some c
    ∧ (∀ key ∈ c.vars.map Prod.fst, isReserved key = false)
    ∧ ∀ more : List Edit, (∀ e ∈ more, e.OfVariables) →
      SameProgress c (c.edited more)
      ∧ ∃ loaded, ofJson? (c.edited more).toJson = some loaded ∧ SameProgress c loaded := by
  intro c
  have clean : c.Clean := (clean_ofMembers unique).edited
  refine ⟨congrArg some clean.ofMembers_members, clean, fun more own => ?_⟩
  have same := sameProgress_edited (c := c) own
  exact ⟨same, _, congrArg some clean.edited.ofMembers_members, same⟩

/-- A booking that cannot be read is dropped, one is started, and then a response brings a booking
of its own under the reserved key: the booking that was started stays. -/
theorem ofJson?_toJson_edited_forged :
    let p := BookingProgress.start "book" (.book BookAppointment.standard) .selectDepartment
    let forged := (p.atStep .enterName).toJson
    let c := (ofMembers [("bookingState", .str "stuck"), ("lang", .str "en")]).edited
      [.replaceBooking (some p)]
    c.booking = some p
    ∧ ∃ loaded, ofJson? (c.edited [.merge [("bookingState", forged), ("city", .str "Pune")],
        .remove "bookingState"]).toJson = some loaded
      ∧ SameProgress c loaded := by
  intro p forged c
  have unique : (List.map Prod.fst
      [("bookingState", Json.str "stuck"), ("lang", Json.str "en")]).Nodup := by decide
  obtain ⟨-, -, stays⟩ := ofJson?_toJson_edited unique [.replaceBooking (some p)]
  refine ⟨rfl, (stays _ fun e he => ?_).2⟩
  obtain rfl | rfl := by simpa using he
  all_goals exact trivial

end Context

end Dialogue
