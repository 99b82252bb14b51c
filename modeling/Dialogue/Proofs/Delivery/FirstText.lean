import Dialogue.Proofs.Delivery.Claims
import Dialogue.Proofs.Delivery.Starting
import Dialogue.Rehearsal.World
import Mathlib.Data.List.Nodup
import Mathlib.Data.List.Perm.Basic

/-!
# The first text of a day

The entry chains of an account's workflows are started by the text that claims its day, and by no
other. Each start is backed by a claim that was granted, so as long as a day is granted once and a
workflow is listed once, a workflow's entry chain is started at most once on a participant's day,
whatever else happens in however many deliveries (`ServiceSettings.started_once`). The rehearsed
stores grant and list so (`ServiceSettings.startingInTurn_of_listsOnce`).
-/

namespace Dialogue

open Exchange

/-! ## Granted days and listed workflows -/

namespace DayClaim

/-- Whether an exchange grants a day. -/
def isGranted (c : DayClaim) : Exchange Request.Answer → Bool
  | ⟨.claimDay d, .ok true⟩ => d == c
  | _ => false

/-- The days that are claimed after an exchange. -/
def after (claimed : List DayClaim) : Exchange Request.Answer → List DayClaim
  | ⟨.claimDay c, .ok true⟩ => claimed ++ [c]
  | _ => claimed

/-- No day is granted that is claimed. -/
def Fresh (claimed : List DayClaim) : Exchange Request.Answer → Prop
  | ⟨.claimDay c, .ok true⟩ => c ∉ claimed
  | _ => True

/-- A day is granted once at most, and not at all if it was claimed before. -/
theorem countP_isGranted_le (c : DayClaim) : ∀ {claimed : List DayClaim} {h : History},
    Along after Fresh claimed h → h.countP c.isGranted + (if c ∈ claimed then 1 else 0) ≤ 1
  | claimed, [], _ => by split <;> simp
  | claimed, ⟨q, r⟩ :: h, ⟨fresh, along⟩ => by
    have rest := countP_isGranted_le c along
    rw [List.countP_cons]
    match q, r with
    | .claimDay d, .ok true =>
      have fresh : d ∉ claimed := fresh
      dsimp only [after, isGranted] at rest ⊢
      by_cases hd : d = c
      · subst hd
        simp [fresh] at rest ⊢
        omega
      · simpa [hd, Ne.symm hd] using rest
    | .claimDay d, .ok false => exact rest
    | .claimDay d, .error err => exact rest
    | .workflowsByToken _ _, _ | .workflowsWithEntry _, _ | .loadConversation _, _
    | .saveConversation _, _ | .recordMessage _, _ | .findMessage _, _ | .appendLog _, _
    | .channel _, _ | .setting _, _ | .send _ _ _, _ | .http _, _ | .booking _, _ | .pause _, _
    | .newLogId, _ | .lock _, _ | .unlock _, _ => exact rest

end DayClaim

/-- The workflows that are listed for an account are its own, each of them once. -/
def ListsOnce (owner : WorkflowId → AccountId) : Exchange Request.Answer → Prop
  | ⟨.workflowsWithEntry account, .ok found⟩ =>
    (found.map (·.id)).Nodup ∧ ∀ w ∈ found, owner w.id = account
  | _ => True

/-- Workflows with identifiers of their own are listed once. -/
theorem WorkflowList.exists_owner {l : WorkflowList} (distinct : (l.map (·.id)).Nodup) :
    ∃ owner, ∀ account,
      ListsOnce owner ⟨.workflowsWithEntry account, .ok (l.withEntry account)⟩ := by
  refine ⟨fun id => ((l.find? fun w => w.id == id).map (·.accountId)).getD default, ?_⟩
  intro account
  refine ⟨List.Nodup.sublist (List.filter_sublist.map _) distinct, fun w hw => ?_⟩
  obtain ⟨mem, kept⟩ := List.mem_filter.1 hw
  have found : l.find? (fun v => v.id == w.id) = some w := by
    cases h : l.find? (fun v => v.id == w.id) with
    | none => simpa using List.find?_eq_none.1 h w mem
    | some v =>
      have same : v.id = w.id := by simpa using List.find?_some h
      rw [List.inj_on_of_nodup_map distinct (List.mem_of_find?_eq_some h) mem same]
  simp only [Bool.and_eq_true, beq_iff_eq] at kept
  dsimp only
  rw [found]
  exact kept.1.1

/-! ## Every start is backed by a grant -/

/-- While every workflow is listed once, no entry chain is started more often on a day than the day
is granted to the workflow's account. -/
def BacksStarts {α : Type} (clock : LocalClock) (owner : WorkflowId → AccountId)
    (p : StartingService α) : Prop :=
  ∀ (g : StartingHistory) a, p.Runs g a → (∀ x ∈ exchanges g, ListsOnce owner x) →
    ∀ id phone date, (marks g).countP (EntryStart.isOn clock id phone date)
      ≤ (exchanges g).countP (DayClaim.isGranted ⟨owner id, phone, date⟩)

section Backed

variable {α β : Type} {clock : LocalClock} {owner : WorkflowId → AccountId}

theorem backsStarts_done {a : α} : BacksStarts clock owner (.done a) := by
  rintro g b ⟨rfl, -⟩ - id phone date
  exact Nat.le_refl _

theorem backsStarts_plain (w : DeliveryWork α) :
    BacksStarts clock owner (StartingWork.plain w) := by
  intro g a run _ id phone date
  obtain ⟨h, rfl, -⟩ := Program.runs_among.1 run
  rw [marks_map_unmarked]
  exact Nat.zero_le _

theorem BacksStarts.bind {p : StartingService α} {f : α → StartingService β}
    (hp : BacksStarts clock owner p) (hf : ∀ a, BacksStarts clock owner (f a)) :
    BacksStarts clock owner (p.bind f) := by
  intro g b run lists id phone date
  obtain ⟨g₁, a, g₂, rfl, run₁, run₂⟩ := Program.runs_bind.1 run
  rw [exchanges_append] at lists
  rw [marks_append, exchanges_append, List.countP_append, List.countP_append]
  exact Nat.add_le_add
    (hp g₁ a run₁ (fun x hx => lists x (List.mem_append_left _ hx)) id phone date)
    (hf a g₂ b run₂ (fun x hx => lists x (List.mem_append_right _ hx)) id phone date)

theorem StartingWork.backsStarts_bind {w : StartingWork α} {f : α → StartingWork β}
    (hw : BacksStarts clock owner w) (hf : ∀ a, BacksStarts clock owner (f a)) :
    BacksStarts clock owner (w >>= f : StartingWork β) := by
  refine BacksStarts.bind hw ?_
  rintro (err | a)
  · exact backsStarts_done
  · exact hf a

end Backed

/-- Whatever a program is answered, it starts no entry chains but those of a list, in order. -/
def StartsWithin {α : Type} (l : List EntryStart) (p : StartingService α) : Prop :=
  ∀ (g : StartingHistory) a, p.Runs g a → (marks g).Sublist l

section Within

variable {α β : Type} {l l₁ l₂ : List EntryStart}

theorem startsWithin_done {a : α} : StartsWithin l (.done a) := by
  rintro g b ⟨rfl, -⟩
  exact List.nil_sublist l

theorem startsWithin_among {p : Service α} : StartsWithin l (p.among EntryStart) := by
  intro g a run
  obtain ⟨h, rfl, -⟩ := Program.runs_among.1 run
  rw [marks_map_unmarked]
  exact List.nil_sublist l

theorem startsWithin_mark {m : EntryStart} : StartsWithin [m] (StartingWork.mark m) := by
  rintro g a ⟨u, g', rfl, rfl, -⟩
  exact .refl _

theorem StartsWithin.bind {p : StartingService α} {f : α → StartingService β}
    (hp : StartsWithin l₁ p) (hf : ∀ a, StartsWithin l₂ (f a)) :
    StartsWithin (l₁ ++ l₂) (p.bind f) := by
  intro g b run
  obtain ⟨g₁, a, g₂, rfl, run₁, run₂⟩ := Program.runs_bind.1 run
  rw [marks_append]
  exact (hp g₁ a run₁).append (hf a g₂ b run₂)

/-- What comes before the chains starts none. -/
theorem StartsWithin.after {p : StartingService α} {f : α → StartingService β}
    (hp : StartsWithin [] p) (hf : ∀ a, StartsWithin l (f a)) : StartsWithin l (p.bind f) :=
  hp.bind hf

/-- What comes after the chains starts none. -/
theorem StartsWithin.before {p : StartingService α} {f : α → StartingService β}
    (hp : StartsWithin l p) (hf : ∀ a, StartsWithin [] (f a)) : StartsWithin l (p.bind f) := by
  rw [← List.append_nil l]
  exact hp.bind hf

end Within

namespace EventScope

open StartingWork

variable {e : EventScope}

theorem startsWithin_startingEntry (w : Workflow) :
    StartsWithin [e.start w] (e.startingEntry w) := by
  unfold startingEntry
  cases w.entryNodeId with
  | none => exact startsWithin_done
  | some entry =>
    refine startsWithin_among.after fun _ => StartsWithin.before ?_ fun _ =>
      startsWithin_among.after fun _ => startsWithin_done
    refine startsWithin_among.after ?_
    rintro (err | c)
    · exact startsWithin_done
    · refine startsWithin_mark.before ?_
      rintro (err | u)
      · exact startsWithin_done
      · exact startsWithin_among

theorem startsWithin_startingAll : ∀ workflows : List Workflow,
    StartsWithin (workflows.map e.start) (e.startingAll workflows)
  | [] => startsWithin_done
  | w :: r => (startsWithin_startingEntry (e := e) w).bind fun _ =>
    (startsWithin_startingAll r).before fun _ => startsWithin_done

theorem startsWithin_startingDay (workflows : List Workflow) :
    StartsWithin (workflows.map e.start) (e.startingDay workflows) := by
  unfold startingDay
  split
  · exact startsWithin_done
  · refine StartsWithin.before ((startsWithin_startingAll workflows).before fun _ =>
      startsWithin_done) ?_
    rintro (err | _ | err) <;> exact startsWithin_done

/-- Of workflows that are listed once, a day's first text starts each once at most, and none but
those of the account whose day it claimed. -/
theorem countP_start_le {owner : WorkflowId → AccountId} {account : AccountId}
    {workflows : List Workflow}
    (lists : ListsOnce owner ⟨.workflowsWithEntry account, .ok workflows⟩)
    (dated : e.settings.clock.date? e.facts.timestamp = some e.facts.localDate)
    (id : WorkflowId) (phone : String) (date : Date) :
    (workflows.map e.start).countP (EntryStart.isOn e.settings.clock id phone date)
      ≤ [(⟨.claimDay ⟨account, e.facts.phone, e.facts.localDate⟩, .ok true⟩ :
        Exchange Request.Answer)].countP (DayClaim.isGranted ⟨owner id, phone, date⟩) := by
  obtain ⟨nodup, owned⟩ := lists
  by_cases started : ∃ w ∈ workflows, (e.start w).isOn e.settings.clock id phone date = true
  · obtain ⟨w, hw, on⟩ := started
    simp only [EntryStart.isOn, start, dated, Bool.and_eq_true, beq_iff_eq,
      Option.some.injEq] at on
    obtain ⟨⟨rfl, rfl⟩, rfl⟩ := on
    have granted : DayClaim.isGranted ⟨owner w.id, e.facts.phone, e.facts.localDate⟩
        ⟨.claimDay ⟨account, e.facts.phone, e.facts.localDate⟩, .ok true⟩ = true := by
      rw [owned w hw]
      exact beq_self_eq_true _
    rw [List.countP_singleton, if_pos granted, List.countP_map]
    calc _ ≤ workflows.countP (fun v => v.id == w.id) := by
          refine List.countP_mono_left fun v _ on => ?_
          simp only [Function.comp_apply, EntryStart.isOn, start, Bool.and_eq_true] at on
          exact on.1.1
      _ = (workflows.map (·.id)).count w.id := by rw [List.count, List.countP_map]; rfl
      _ ≤ 1 := List.nodup_iff_count_le_one.1 nodup _
  · have silent : (workflows.map e.start).countP (EntryStart.isOn e.settings.clock id phone date)
        = 0 := by
      rw [List.countP_eq_zero]
      intro m hm on
      obtain ⟨w, hw, rfl⟩ := List.mem_map.1 hm
      exact started ⟨w, hw, on⟩
    rw [silent]
    exact Nat.zero_le _

variable {owner : WorkflowId → AccountId}

/-- A text starts chains only behind the grant of its day, and claims nothing after it. -/
theorem backsStarts_startingText
    (dated : e.settings.clock.date? e.facts.timestamp = some e.facts.localDate)
    (account : AccountId) (workflows : List Workflow) (body : String) :
    BacksStarts e.settings.clock owner (e.startingText account workflows body) := by
  refine backsStarts_bind (backsStarts_plain _) fun taken => ?_
  cases taken with
  | true => exact backsStarts_done
  | false =>
    intro g a run lists id phone date
    obtain ⟨g₁, decision, g₂, rfl, decided, rest⟩ := Program.runs_bind.1 run
    obtain ⟨h, rfl, persisted⟩ := Program.runs_among.1 decided
    obtain ⟨told, ran, rfl⟩ := DeliveryWork.runs_persisting persisted
    rw [exchanges_append, exchanges_map_unmarked] at lists ⊢
    rw [marks_append, marks_map_unmarked, List.nil_append]
    have silent (ended : g₂ = []) :
        (marks g₂).countP (EntryStart.isOn e.settings.clock id phone date)
          ≤ (h ++ exchanges g₂).countP (DayClaim.isGranted ⟨owner id, phone, date⟩) := by
      rw [ended]
      exact Nat.zero_le _
    cases DayDecision.decided_of_runs ran with
    | unclaimed err => exact silent rest.1
    | inquiry => exact silent rest.1
    | unlisted err => exact silent rest.1
    | first found =>
      have started : (marks g₂).Sublist (found.map e.start) :=
        startsWithin_startingDay found g₂ a rest
      have listed := lists ⟨.workflowsWithEntry account, .ok found⟩ (by simp)
      have once := countP_start_le listed dated id phone date
      refine Nat.le_trans started.countP_le (Nat.le_trans once ?_)
      exact List.Sublist.countP_le (.cons_cons _ (List.nil_sublist _))

end EventScope

namespace ServiceSettings

open StartingWork

variable (s : ServiceSettings) {owner : WorkflowId → AccountId}

theorem backsStarts_startingEvent (account : AccountId) (workflows : List Workflow) (raw : Json)
    (now : Instant) (event : InboundEvent) :
    BacksStarts s.clock owner (s.startingEvent account workflows raw now event) := by
  cases event with
  | text event =>
    dsimp only [startingEvent]
    cases hfacts : s.clock.facts? event.phone (some event.body) event.timestamp with
    | none => exact backsStarts_done
    | some facts =>
      obtain ⟨date, dated, rfl⟩ := Option.map_eq_some_iff.1 hfacts
      exact EventScope.backsStarts_startingText dated account workflows event.body
  | _ => exact backsStarts_plain _

theorem backsStarts_startingMessages (account : AccountId) (workflows : List Workflow)
    (receivedAt : Instant) : ∀ (messages : List Json) (outcome : DeliveryOutcome),
      BacksStarts s.clock owner
        (s.startingMessages account workflows receivedAt messages outcome)
  | [], _ => backsStarts_done
  | raw :: r, outcome =>
    backsStarts_bind (s.backsStarts_startingEvent account workflows raw receivedAt _) fun next =>
      backsStarts_startingMessages account workflows receivedAt r (outcome.merge next)

theorem backsStarts_starting (d : Delivery) : BacksStarts s.clock owner (s.starting d) := by
  refine backsStarts_bind (backsStarts_plain _) fun workflows => ?_
  split
  · exact backsStarts_done
  · exact s.backsStarts_startingMessages d.account workflows d.receivedAt _ _

/-- Every start in the histories of deliveries is backed by a grant in one of them. -/
theorem countP_starts_le {deliveries : List Delivery} {histories : List StartingHistory}
    (runs : List.Forall₂ (fun d g => ∃ r, Program.Runs (s.starting d) g r) deliveries histories)
    (lists : ∀ x ∈ exchanges histories.flatten, ListsOnce owner x) (id : WorkflowId)
    (phone : String) (date : Date) :
    (marks histories.flatten).countP (EntryStart.isOn s.clock id phone date)
      ≤ (exchanges histories.flatten).countP (DayClaim.isGranted ⟨owner id, phone, date⟩) := by
  induction runs with
  | nil => exact Nat.le_refl _
  | cons first _ ih =>
    obtain ⟨r, first⟩ := first
    rw [List.flatten_cons, exchanges_append] at lists ⊢
    rw [marks_append, List.countP_append, List.countP_append]
    exact Nat.add_le_add
      (s.backsStarts_starting _ _ r first (fun x hx => lists x (List.mem_append_left _ hx)) id
        phone date)
      (ih fun x hx => lists x (List.mem_append_right _ hx))

/-- Take deliveries of any kind, in any order, one after another or overlapping, whatever the
collaborators answer, as long as they grant no day that is claimed and list every workflow once.
Then for every workflow, participant and local date the workflow's entry chain is started at most
once by texts that the participant sent on that date. The marks of the starts are all that the
marked deliveries add. -/
theorem started_once (s : ServiceSettings) :
    (∀ d, (s.starting d).erase = s.handle d)
    ∧ ∀ {owner : WorkflowId → AccountId} {deliveries : List Delivery}
      {histories : List StartingHistory} {h : History} {claimed : List DayClaim},
      List.Forall₂ (fun d g => ∃ r, Program.Runs (s.starting d) g r) deliveries histories →
      h.Perm (exchanges histories.flatten) → Along DayClaim.after DayClaim.Fresh claimed h →
      (∀ x ∈ h, ListsOnce owner x) → ∀ (id : WorkflowId) (phone : String) (date : Date),
        (marks histories.flatten).countP (EntryStart.isOn s.clock id phone date) ≤ 1 := by
  refine ⟨s.erase_starting, ?_⟩
  intro owner deliveries histories h claimed runs interleaved fresh lists id phone date
  have backed := s.countP_starts_le runs (fun x hx => lists x (interleaved.mem_iff.2 hx)) id phone
    date
  rw [← interleaved.countP_eq] at backed
  have granted := DayClaim.countP_isGranted_le ⟨owner id, phone, date⟩ fresh
  omega

/-! ## The rehearsed service -/

end ServiceSettings

namespace World

variable (now : Instant)

/-- The rehearsed stores grant a day that is not claimed and claim it, and keep their workflows. -/
theorem kept_answer : ∀ (q : Request) (w : World),
    DayClaim.Fresh w.claims ⟨q, (answer now q w).1⟩
      ∧ (answer now q w).2.claims = DayClaim.after w.claims ⟨q, (answer now q w).1⟩
      ∧ (answer now q w).2.workflows = w.workflows
  | .claimDay c, w => by
    dsimp only [answer, guarded]
    split
    · exact ⟨trivial, rfl, rfl⟩
    · by_cases claimed : c ∈ w.claims
      · simp [claim, strike, note, claimed, DayClaim.Fresh, DayClaim.after]
      · simp [claim, strike, note, claimed, DayClaim.Fresh, DayClaim.after]
  | .workflowsByToken _ _, w | .workflowsWithEntry _, w | .loadConversation _, w
  | .recordMessage _, w | .findMessage _, w | .appendLog _, w | .setting _, w => by
    dsimp only [answer, guarded]
    split <;> exact ⟨trivial, rfl, rfl⟩
  | .saveConversation _, w => by
    dsimp only [answer, save]
    split <;> exact ⟨trivial, rfl, rfl⟩
  | .send _ _ _, w => by
    dsimp only [answer, accept]
    split <;> exact ⟨trivial, rfl, rfl⟩
  | .channel account, w => by
    dsimp only [answer, guarded]
    split
    · exact ⟨trivial, rfl, rfl⟩
    · dsimp only [channel?]
      split <;> exact ⟨trivial, rfl, rfl⟩
  | .http _, _ | .booking _, _ | .pause _, _ | .newLogId, _ | .lock _, _ | .unlock _, _ =>
    ⟨trivial, rfl, rfl⟩

/-- The rehearsed claims grant no day twice. -/
theorem fresh_history {α : Type} : ∀ (p : Service α) (w : World),
    Along DayClaim.after DayClaim.Fresh w.claims (p.history (answer now) w)
      ∧ (p.run (answer now) w).2.claims
        = (p.history (answer now) w).foldl DayClaim.after w.claims
  | .done _, _ => ⟨trivial, rfl⟩
  | Program.ask q next, w => by
    obtain ⟨fresh, kept, -⟩ := kept_answer now q w
    obtain ⟨along, after⟩ := fresh_history (next (answer now q w).1) (answer now q w).2
    rw [kept] at along after
    exact ⟨⟨fresh, along⟩, after⟩

variable {owner : WorkflowId → AccountId}

theorem listsOnce_answer {w : World}
    (lists : ∀ account,
      ListsOnce owner ⟨.workflowsWithEntry account, .ok (w.workflows.withEntry account)⟩) :
    ∀ q : Request, ListsOnce owner ⟨q, (answer now q w).1⟩
  | .workflowsWithEntry account => by
    dsimp only [answer, guarded]
    split
    · exact trivial
    · exact lists account
  | .workflowsByToken _ _ | .loadConversation _ | .saveConversation _ | .recordMessage _
  | .findMessage _ | .appendLog _ | .claimDay _ | .channel _ | .setting _ | .send _ _ _ | .http _
  | .booking _ | .pause _ | .newLogId | .lock _ | .unlock _ => trivial

/-- The rehearsed workflows are listed once if their identifiers differ. -/
theorem listsOnce_history {α : Type} : ∀ (p : Service α) {w : World},
    (∀ account,
      ListsOnce owner ⟨.workflowsWithEntry account, .ok (w.workflows.withEntry account)⟩) →
      (∀ x ∈ p.history (answer now) w, ListsOnce owner x)
        ∧ (p.run (answer now) w).2.workflows = w.workflows
  | .done _, _, _ => ⟨List.forall_mem_nil _, rfl⟩
  | Program.ask q next, w, lists => by
    have kept := (kept_answer now q w).2.2
    obtain ⟨listed, same⟩ := listsOnce_history (next (answer now q w).1) (kept ▸ lists)
    exact ⟨List.forall_mem_cons.2 ⟨listsOnce_answer now lists q, listed⟩, same.trans kept⟩

end World

/-- What deliveries that are handled in turn ask and start. -/
def ServiceSettings.startingInTurn (s : ServiceSettings) (now : Instant) :
    List Delivery → World → List StartingHistory
  | [], _ => []
  | d :: deliveries, w =>
    let answer := Program.answerMarked (World.answer now)
    Program.history answer (s.starting d) w
      :: startingInTurn s now deliveries (Program.run answer (s.starting d) w).2

/-- In turn, deliveries meet stores that grant no day twice and list every workflow once. -/
theorem ServiceSettings.startingInTurn_of_listsOnce (s : ServiceSettings) (now : Instant)
    {owner : WorkflowId → AccountId} : ∀ (deliveries : List Delivery) {w : World},
    (∀ account,
      ListsOnce owner ⟨.workflowsWithEntry account, .ok (w.workflows.withEntry account)⟩) →
      List.Forall₂ (fun d g => ∃ r, Program.Runs (s.starting d) g r) deliveries
          (s.startingInTurn now deliveries w)
        ∧ Along DayClaim.after DayClaim.Fresh w.claims
          (exchanges (s.startingInTurn now deliveries w).flatten)
        ∧ ∀ x ∈ exchanges (s.startingInTurn now deliveries w).flatten, ListsOnce owner x
  | [], _, _ => ⟨.nil, trivial, List.forall_mem_nil _⟩
  | d :: deliveries, w, lists => by
    have asked :
        exchanges (Program.history (Program.answerMarked (World.answer now)) (s.starting d) w)
          = Program.history (World.answer now) (s.handle d) w := by
      rw [Program.exchanges_history]
      exact congrArg (Program.history (World.answer now) · w) (s.erase_starting d)
    have left : (Program.run (Program.answerMarked (World.answer now)) (s.starting d) w).2
        = (Program.run (World.answer now) (s.handle d) w).2 := by
      rw [Program.run_answerMarked]
      exact congrArg (fun p => (Program.run (World.answer now) p w).2) (s.erase_starting d)
    obtain ⟨fresh, claims⟩ := World.fresh_history now (s.handle d) w
    obtain ⟨listed, kept⟩ := World.listsOnce_history now (s.handle d) lists
    obtain ⟨runs, along, later⟩ := startingInTurn_of_listsOnce s now deliveries
      (w := (Program.run (World.answer now) (s.handle d) w).2) (kept ▸ lists)
    rw [claims] at along
    unfold startingInTurn
    dsimp only
    rw [left, List.flatten_cons, exchanges_append, asked]
    exact ⟨.cons ⟨_, Program.runs_history _ _ _⟩ runs, along_append.2 ⟨fresh, along⟩,
      fun x hx => (List.mem_append.1 hx).elim (listed x) (later x)⟩

/-! Two texts of a participant through two tokens of an account: one before and one after midnight
by universal time, both on one day by a clock that is an hour and a half ahead. -/

namespace TwoTokens

def account : AccountId := ⟨⟨7⟩⟩

def phone : String := "919800000001"

def now : Instant := (Instant.ofSeconds? 1773223200).get rfl

def settings : ServiceSettings := ⟨⟨5400, by decide, by decide⟩, 7, .standard⟩

def day : Date := (Date.ofCivil? ⟨2026, 3, 11⟩).get rfl

/-- A workflow whose entry node greets. -/
def greeter (id : WorkflowId) (token : String) : Workflow :=
  { Workflow.new id account "Greeter" token now with
    entryNodeId := some "hello"
    graph := .ofParts [⟨"hello", .text ⟨"Hello"⟩⟩] [] }

def workflows : WorkflowList := [greeter ⟨⟨1⟩⟩ "token", greeter ⟨⟨2⟩⟩ "other"]

def world : World :=
  { World.empty with
    workflows := workflows
    channels := [⟨⟨⟨6⟩⟩, account, "token", true, true⟩] }

def delivery (token : String) (seconds : Int) : Delivery :=
  let message : Json := .obj [("chat_id", .str "919800000001@s.whatsapp.net"),
    ("text", .obj [("body", .str "Hi")]), ("timestamp", .int seconds)]
  ⟨account, token, .obj [("messages", .arr [message])], now⟩

def deliveries : List Delivery := [delivery "token" 1773185400, delivery "other" 1773223200]

def histories : List StartingHistory := settings.startingInTurn now deliveries world

end TwoTokens

open TwoTokens in
/-- The second token's text starts nothing again, though it is the first text through that token. -/
theorem ServiceSettings.started_twoTokens :
    (∃ owner, List.Forall₂ (fun d g => ∃ r, Program.Runs (settings.starting d) g r)
        deliveries histories
      ∧ Along DayClaim.after DayClaim.Fresh [] (exchanges histories.flatten)
      ∧ ∀ x ∈ exchanges histories.flatten, ListsOnce owner x)
    ∧ marks histories.flatten = [⟨⟨⟨1⟩⟩, phone, (Instant.ofSeconds? 1773185400).get rfl⟩,
      ⟨⟨⟨2⟩⟩, phone, (Instant.ofSeconds? 1773185400).get rfl⟩]
    ∧ ∀ id, (marks histories.flatten).countP (EntryStart.isOn settings.clock id phone day) ≤ 1 := by
  have distinct : (workflows.map (·.id)).Nodup := by decide
  obtain ⟨owner, lists⟩ := WorkflowList.exists_owner distinct
  obtain ⟨runs, fresh, listed⟩ := settings.startingInTurn_of_listsOnce now deliveries
    (w := world) lists
  have once := fun id =>
    (started_once settings).2 runs (.refl _) fresh listed id phone day
  exact ⟨⟨owner, runs, fresh, listed⟩, by decide +kernel, once⟩

end Dialogue
