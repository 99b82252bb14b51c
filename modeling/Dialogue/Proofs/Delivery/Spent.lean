import Dialogue.Proofs.Delivery.FirstText
import Dialogue.Proofs.Delivery.Stores

/-!
# Days spent on a failure

A text claims its day before the workflows to start are listed. When the claim itself fails, all is
as it was. When the listing fails, the decision fails too, but the day stays claimed: the text that
is delivered again is an inquiry, and nothing is started on that day (`DayDecision.first_again_iff`).
-/

namespace Dialogue

/-- The workflows to start could not be listed. -/
def Unlisted (h : History) : Prop :=
  ∃ x ∈ h, ∃ account err, x = ⟨.workflowsWithEntry account, .error err⟩

namespace Stores

variable {t t' : Stores}

/-- A day is claimed that was claimed before or is granted. -/
theorem Replies.mem_claims {x : Exchange Request.Answer} (h : t.Replies x t') (c : DayClaim) :
    c ∈ t'.claims ↔ c ∈ t.claims ∨ c.isGranted x = true := by
  obtain ⟨q, r⟩ := x
  cases q with
  | claimDay d =>
    rcases r with err | _ | _
    · obtain rfl : t' = t := h
      exact (or_iff_left Bool.false_ne_true).symm
    · obtain ⟨-, rfl⟩ := h
      exact (or_iff_left Bool.false_ne_true).symm
    · obtain ⟨-, rfl⟩ := h
      have granted : c.isGranted ⟨.claimDay d, .ok true⟩ = true ↔ c = d :=
        beq_iff_eq.trans eq_comm
      rw [List.mem_append, List.mem_singleton, granted]
  | _ =>
    have same : t'.claims = t.claims := h.claims_eq id
    rw [same]
    exact (or_iff_left Bool.false_ne_true).symm

theorem Serves.mem_claims (c : DayClaim) : ∀ {t : Stores} {h : History}, t.Serves h t' →
    (c ∈ t'.claims ↔ c ∈ t.claims ∨ ∃ x ∈ h, c.isGranted x = true)
  | t, [], served => by
    obtain rfl : t' = t := served
    simp
  | t, x :: h, ⟨u, hx, served⟩ => by
    rw [served.mem_claims c, hx.mem_claims c, or_assoc, List.exists_mem_cons_iff]

end Stores

namespace DayDecision

variable {account : AccountId} {phone : String} {date : Date} {h : History} {t t' : Stores}

/-- A decision that fails either leaves all as it is or spends a day that was free. -/
theorem spent_or_untouched {err : ChainError}
    (run : (decide account phone date).Runs h (.error err)) (served : t.Serves h t') :
    (¬ Unlisted h ∧ t' = t)
      ∨ (Unlisted h ∧ ⟨account, phone, date⟩ ∉ t.claims
        ∧ t' = { t with claims := t.claims ++ [⟨account, phone, date⟩] }) := by
  cases decided_of_runs run with
  | unclaimed err =>
    obtain ⟨u, rfl, rfl⟩ := served
    refine .inl ⟨?_, rfl⟩
    rintro ⟨x, hx, account, err, rfl⟩
    cases List.mem_singleton.1 hx
  | unlisted err =>
    obtain ⟨u, ⟨free, rfl⟩, v, rfl, rfl⟩ := served
    exact .inr ⟨⟨_, by simp, account, err, rfl⟩, free, rfl⟩

/-- A decision that comes to something finds the first text exactly on a free day. -/
theorem first_iff {d : DayDecision} (run : (decide account phone date).Runs h (.ok d))
    (served : t.Serves h t') :
    (∃ workflows, d = .first workflows) ↔ ⟨account, phone, date⟩ ∉ t.claims := by
  cases decided_of_runs run with
  | inquiry =>
    obtain ⟨u, ⟨claimed, rfl⟩, rfl⟩ := served
    exact ⟨nofun, fun free => absurd claimed free⟩
  | first workflows =>
    obtain ⟨u, ⟨free, rfl⟩, v, rfl, rfl⟩ := served
    exact ⟨fun _ => free, fun _ => ⟨workflows, rfl⟩⟩

/-- A decision fails because the day cannot be claimed, and then nothing has changed, or because the
workflows to start cannot be listed, and then it has spent the day. Whatever happens in between, a
text that is decided on again is the first of its day if and only if the day was free, the failure
was not to list the workflows, and nothing else was granted the day since. -/
theorem first_again_iff {err : ChainError}
    (run : (decide account phone date).Runs h (.error err)) (served : t.Serves h t') :
    (Unlisted h ↔ ⟨account, phone, date⟩ ∉ t.claims ∧ ⟨account, phone, date⟩ ∈ t'.claims)
      ∧ (¬ Unlisted h → t' = t)
      ∧ ∀ {k h' : History} {u u' : Stores} {d : DayDecision}, t'.Serves k u →
        (decide account phone date).Runs h' (.ok d) → u.Serves h' u' →
        ((∃ workflows, d = .first workflows) ↔ ⟨account, phone, date⟩ ∉ t.claims ∧ ¬ Unlisted h
          ∧ ∀ x ∈ k, DayClaim.isGranted ⟨account, phone, date⟩ x = false) := by
  have spent : Unlisted h ↔ ⟨account, phone, date⟩ ∉ t.claims
      ∧ ⟨account, phone, date⟩ ∈ t'.claims := by
    rcases spent_or_untouched run served with ⟨listed, rfl⟩ | ⟨unlisted, free, rfl⟩
    · exact ⟨fun unlisted => absurd unlisted listed, fun ⟨free, claimed⟩ => absurd claimed free⟩
    · exact ⟨fun _ => ⟨free, by simp⟩, fun _ => unlisted⟩
  refine ⟨spent, fun listed => ?_, fun between rerun again => ?_⟩
  · rcases spent_or_untouched run served with ⟨-, same⟩ | ⟨unlisted, -⟩
    · exact same
    · exact absurd unlisted listed
  · have after : ⟨account, phone, date⟩ ∉ t'.claims
        ↔ ⟨account, phone, date⟩ ∉ t.claims ∧ ¬ Unlisted h := by
      rcases spent_or_untouched run served with ⟨listed, rfl⟩ | ⟨unlisted, free, rfl⟩
      · exact (and_iff_left listed).symm
      · exact ⟨fun away => absurd (by simp) away, fun ⟨_, listed⟩ => absurd unlisted listed⟩
    rw [first_iff rerun again, between.mem_claims, not_or, after, and_assoc]
    simp only [not_exists, not_and, Bool.not_eq_true]

end DayDecision

/-! A text of a morning on which the workflows cannot be listed, and again when they can. -/

namespace SpentDay

def account : AccountId := ⟨⟨7⟩⟩

def phone : String := "919800000001"

def now : Instant := (Instant.ofSeconds? 1773302400).get rfl

def day : Date := (Date.ofCivil? ⟨2026, 3, 12⟩).get rfl

def claim : DayClaim := ⟨account, phone, day⟩

/-- A workflow with an entry node, and claims that were granted. -/
def world (claims : List DayClaim) : World :=
  { World.empty with
    workflows := [{ Workflow.new ⟨⟨1⟩⟩ account "Greeter" "token" now with
      entryNodeId := some "hello"
      graph := .ofParts [⟨"hello", .text ⟨"Hello"⟩⟩] [] }]
    claims := claims }

def failing : World :=
  let w := world []
  { w with stage := { w.stage with faults := ⟨["entries"], []⟩ } }

/-- What deciding asks while the listing fails. -/
def failed : History := (DayDecision.decide account phone day).history (World.answer now) failing

/-- What deciding asks when the text is delivered again. -/
def again : History :=
  (DayDecision.decide account phone day).history (World.answer now) (world [claim])

/-- The stores, given the days that are claimed. -/
def stores (claims : List DayClaim) : Stores := ⟨[], claims, [], [], .empty⟩

end SpentDay

open SpentDay in
/-- The failure has spent the day, and the text is an inquiry. -/
theorem DayDecision.first_again_failing :
    (decide account phone day).Runs failed
        (.error (.lookup (Text.report (WorkflowError.storage account "injected").message)))
      ∧ (stores []).Serves failed (stores [claim])
      ∧ (decide account phone day).Runs again (.ok .inquiry)
      ∧ (stores [claim]).Serves again (stores [claim])
      ∧ Unlisted failed
      ∧ ¬ ∃ workflows, DayDecision.inquiry = .first workflows := by
  have run : (decide account phone day).Runs failed
      (.error (.lookup (Text.report (WorkflowError.storage account "injected").message))) :=
    Program.runs_history (World.answer now) (decide account phone day) failing
  have served : (stores []).Serves failed (stores [claim]) :=
    ⟨_, ⟨by decide, rfl⟩, _, rfl, rfl⟩
  have rerun : (decide account phone day).Runs again (.ok .inquiry) :=
    Program.runs_history (World.answer now) (decide account phone day) (world [claim])
  have served' : (stores [claim]).Serves again (stores [claim]) := ⟨_, ⟨by decide, rfl⟩, rfl⟩
  obtain ⟨spent, -, later⟩ := first_again_iff run served
  have unlisted : Unlisted failed := spent.2 ⟨by decide, by decide⟩
  exact ⟨run, served, rerun, served', unlisted,
    fun first => ((later (k := []) rfl rerun served').1 first).2.1 unlisted⟩

end Dialogue
