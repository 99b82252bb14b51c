import Dialogue.Proofs.History

/-!
# Work that keeps a contract

Work is a program over a state that may fail. A contract says what holds of the state, which
exchanges may take place, and which failures may end the work. Work keeps a contract with results
of a kind if all of that is so whenever it starts in such a state; its parts are shown to keep it
one by one (`Keeps.bind`).

Where the state that work ends in hangs on its result, `Work.Leaves` relates the two, part by part
(`Leaves.bind`). Work that gives up at an exchange of a kind asks nothing after one
(`GivesUpAt.bind`).
-/

namespace Dialogue

/-- Programs over a state that may fail. -/
abbrev Work {ι : Type} (ε σ : Type) (ρ : ι → Type) (α : Type) :=
  ExceptT ε (StateT σ (Program ι ρ)) α

/-- What holds of the state, which exchanges may take place, and which failures may happen. -/
structure Contract {ι : Type} (ε σ : Type) (ρ : ι → Type) where
  state : σ → Prop
  exchange : Exchange ρ → Prop
  failure : ε → Prop

variable {ι : Type} {ρ : ι → Type} {α β σ ε : Type}

instance : LawfulMonad (Program ι ρ) :=
  LawfulMonad.mk' _ Program.bind_done (fun _ _ => rfl) Program.bind_assoc

namespace Work

theorem bind_apply (w : Work ε σ ρ α) (f : α → Work ε σ ρ β) (s : σ) :
    (w >>= f) s = (w s).bind fun r => match r.1 with
      | .ok a => f a r.2
      | .error e => .done (.error e, r.2) := by
  refine congrArg (Program.bind (w s)) (funext ?_)
  rintro ⟨r, t⟩
  cases r <;> rfl

/-- Work that starts in a state of a kind ends with a result and a state that `post` relates, or
fails in a state of a kind. -/
def Leaves (pre : σ → Prop) (w : Work ε σ ρ α) (post : α → σ → Prop) (fail : σ → Prop) : Prop :=
  ∀ s, pre s → (w s).Ensures (fun _ => True) fun r => match r.1 with
    | .ok a => post a r.2
    | .error _ => fail r.2

section Leaves

variable {pre : σ → Prop} {w : Work ε σ ρ α} {post : α → σ → Prop} {fail : σ → Prop}

theorem Leaves.pure {a : α} (h : ∀ s, pre s → post a s) :
    Leaves pre (Pure.pure a : Work ε σ ρ α) post fail :=
  fun s hs => .done (h s hs)

theorem Leaves.modify {f : σ → σ} {post : PUnit → σ → Prop} (h : ∀ s, pre s → post ⟨⟩ (f s)) :
    Leaves pre (modify f : Work ε σ ρ PUnit) post fail :=
  fun s hs => .done (h s hs)

theorem Leaves.bind {f : α → Work ε σ ρ β} {m : α → σ → Prop} {post : β → σ → Prop}
    (hw : Leaves pre w m fail) (hf : ∀ a, Leaves (m a) (f a) post fail) :
    Leaves pre (w >>= f) post fail := by
  intro s hs
  rw [bind_apply]
  refine (hw s hs).bind ?_
  rintro ⟨r, t⟩ hr
  cases r with
  | ok a => exact hf a t hr
  | error e => exact .done hr

/-- Where nothing is asked of the start and of failures, only the last part counts. -/
theorem Leaves.after {f : α → Work ε σ ρ β} {post : β → σ → Prop}
    (hf : ∀ a, Leaves (fun _ => True) (f a) post fun _ => True) :
    Leaves (fun _ => True) (w >>= f) post fun _ => True := by
  have any : Leaves (fun _ => True) w (fun _ _ => True) fun _ => True := by
    rintro s - h ⟨a | a, t⟩ -
    · exact ⟨fun _ _ => trivial, trivial⟩
    · exact ⟨fun _ _ => trivial, trivial⟩
  exact any.bind hf

theorem Leaves.mono {pre' : σ → Prop} {post' : α → σ → Prop} (hw : Leaves pre w post fail)
    (hpre : ∀ s, pre' s → pre s) (hpost : ∀ a s, post a s → post' a s) :
    Leaves pre' w post' fail := by
  intro s hs h r run
  refine ⟨fun _ _ => trivial, ?_⟩
  have hr := (hw s (hpre s hs) h r run).2
  obtain ⟨a | a, t⟩ := r
  · exact hr
  · exact hpost a t hr

end Leaves

end Work

namespace Work

theorem get_bind_apply (f : σ → Work ε σ ρ α) (s : σ) : (get >>= f) s = f s s := rfl

theorem modify_bind_apply (g : σ → σ) (f : PUnit → Work ε σ ρ α) (s : σ) :
    (modify g >>= f) s = f ⟨⟩ (g s) := rfl

/-- A history that ends well splits where the first part ends. -/
theorem runs_bind_ok {w : Work ε σ ρ α} {f : α → Work ε σ ρ β} {s u : σ}
    {h : List (Exchange ρ)} {b : β} : ((w >>= f) s).Runs h (.ok b, u) ↔
      ∃ h₁ a t h₂, h = h₁ ++ h₂ ∧ (w s).Runs h₁ (.ok a, t) ∧ (f a t).Runs h₂ (.ok b, u) := by
  rw [bind_apply]
  constructor
  · intro run
    obtain ⟨h₁, ⟨a | a, t⟩, h₂, rfl, run₁, run₂⟩ := Program.runs_bind.1 run
    · obtain ⟨-, hb⟩ := run₂
      cases hb
    · exact ⟨h₁, a, t, h₂, rfl, run₁, run₂⟩
  · rintro ⟨h₁, a, t, h₂, rfl, run₁, run₂⟩
    exact Program.runs_bind.2 ⟨h₁, (.ok a, t), h₂, rfl, run₁, run₂⟩

/-- A history of work whose result is put in another form. -/
theorem runs_map {w : Work ε σ ρ α} {f : α → β} {s u : σ} {h : List (Exchange ρ)}
    {r : Except ε β} (run : ((w >>= fun a => pure (f a)) s).Runs h (r, u)) :
    ∃ a, (w s).Runs h (a, u) ∧ r = a.map f := by
  rw [bind_apply] at run
  obtain ⟨h₁, ⟨a, t⟩, h₂, rfl, run₁, run₂⟩ := Program.runs_bind.1 run
  cases a with
  | ok a =>
    obtain ⟨rfl, ends⟩ := run₂
    obtain ⟨rfl, rfl⟩ := Prod.mk.inj ends
    exact ⟨.ok a, (List.append_nil h₁).symm ▸ run₁, rfl⟩
  | error e =>
    obtain ⟨rfl, ends⟩ := run₂
    obtain ⟨rfl, rfl⟩ := Prod.mk.inj ends
    exact ⟨.error e, (List.append_nil h₁).symm ▸ run₁, rfl⟩

/-- An exchange of a kind is the last one, and the work fails. -/
def GivesUpAt (last : Exchange ρ → Prop) (w : Work ε σ ρ α) : Prop :=
  ∀ s h₁ x h₂ r, (w s).Runs (h₁ ++ x :: h₂) r → last x → h₂ = [] ∧ ∃ e, r.1 = .error e

variable {last : Exchange ρ → Prop}

theorem givesUpAt_of_never {w : Work ε σ ρ α} {P : Except ε α × σ → Prop}
    (h : ∀ s, (w s).Ensures (fun x => ¬ last x) P) : GivesUpAt last w := by
  intro s h₁ x h₂ r run hx
  exact absurd hx ((h s _ r run).1 x (by simp))

/-- Work that asks nothing. -/
theorem GivesUpAt.done {w : Work ε σ ρ α} {r : σ → Except ε α × σ} (h : ∀ s, w s = .done (r s)) :
    GivesUpAt last w := by
  refine givesUpAt_of_never (P := fun _ => True) fun s => ?_
  rw [h s]
  exact .done trivial

theorem GivesUpAt.bind {w : Work ε σ ρ α} {f : α → Work ε σ ρ β} (hw : GivesUpAt last w)
    (hf : ∀ a, GivesUpAt last (f a)) : GivesUpAt last (w >>= f) := by
  intro s h₁ x h₂ r run hx
  rw [bind_apply] at run
  rcases Program.runs_bind_at run with
    ⟨⟨a, t⟩, g₁, g₂, rfl, run₁, run₂⟩ | ⟨⟨a, t⟩, g₁, g₂, rfl, -, run₂⟩
  · obtain ⟨rfl, e, rfl⟩ := hw s h₁ x g₁ _ run₁ hx
    obtain ⟨rfl, rfl⟩ := run₂
    exact ⟨rfl, e, rfl⟩
  · cases a with
    | ok a => exact hf a t g₂ x h₂ r run₂ hx
    | error e =>
      obtain ⟨hnil, -⟩ := run₂
      simp at hnil

end Work

namespace Contract

/-- How work that keeps the contract may end. -/
def Ends (C : Contract ε σ ρ) (post : α → Prop) (r : Except ε α × σ) : Prop :=
  C.state r.2 ∧ match r.1 with
    | .ok a => post a
    | .error e => C.failure e

/-- Work keeps the contract, and its results are of a kind. -/
def Keeps (C : Contract ε σ ρ) (w : Work ε σ ρ α) (post : α → Prop) : Prop :=
  ∀ s, C.state s → (w s).Ensures C.exchange (C.Ends post)

variable {C : Contract ε σ ρ} {post : α → Prop}

theorem Keeps.pure {a : α} (h : post a) : C.Keeps (Pure.pure a : Work ε σ ρ α) post :=
  fun _ hs => .done ⟨hs, h⟩

theorem Keeps.throw {e : ε} (h : C.failure e) : C.Keeps (throw e : Work ε σ ρ α) post :=
  fun _ hs => .done ⟨hs, h⟩

theorem Keeps.modify {f : σ → σ} (h : ∀ s, C.state s → C.state (f s)) :
    C.Keeps (modify f : Work ε σ ρ PUnit) fun _ => True :=
  fun s hs => .done ⟨h s hs, trivial⟩

theorem Keeps.get : C.Keeps (get : Work ε σ ρ σ) C.state := fun _ hs => .done ⟨hs, hs⟩

theorem Keeps.bind {w : Work ε σ ρ α} {f : α → Work ε σ ρ β} {post : β → Prop}
    {mid : α → Prop} (hw : C.Keeps w mid) (hf : ∀ a, mid a → C.Keeps (f a) post) :
    C.Keeps (w >>= f) post := by
  intro s hs
  rw [Work.bind_apply]
  refine (hw s hs).bind ?_
  rintro ⟨r, t⟩ ⟨ht, hr⟩
  cases r with
  | ok a => exact hf a hr t ht
  | error e => exact .done ⟨ht, hr⟩

end Contract

end Dialogue
