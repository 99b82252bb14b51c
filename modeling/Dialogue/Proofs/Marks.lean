import Dialogue.Proofs.Work

/-!
# Programs with marks

A mark is a request that nobody sees and that is answered with nothing: it notes in a history how
far a program has come. A program is marked at will, and stays what it was if dropping the marks
gives it back (`erase_embed`, `Work.erase_bind`).
-/

namespace Dialogue

variable {ι μ : Type} {ρ : ι → Type} {α β σ ε : Type}

/-- What requests and marks are answered with. -/
abbrev Marked (ρ : ι → Type) (μ : Type) : ι ⊕ μ → Type
  | .inl i => ρ i
  | .inr _ => Unit

/-- An exchange among marks. -/
def Exchange.unmarked (x : Exchange ρ) : Exchange (Marked ρ μ) := ⟨.inl x.1, x.2⟩

/-- The exchange of a mark. -/
def Exchange.mark (m : μ) : Exchange (Marked ρ μ) := ⟨.inr m, ()⟩

open Exchange

/-- The exchanges of a marked history. -/
def exchanges : List (Exchange (Marked ρ μ)) → List (Exchange ρ)
  | [] => []
  | ⟨.inl i, r⟩ :: h => ⟨i, r⟩ :: exchanges h
  | ⟨.inr _, _⟩ :: h => exchanges h

/-- The marks of a marked history. -/
def marks : List (Exchange (Marked ρ μ)) → List μ
  | [] => []
  | ⟨.inl _, _⟩ :: h => marks h
  | ⟨.inr m, _⟩ :: h => m :: marks h

theorem marks_append : ∀ h₁ h₂ : List (Exchange (Marked ρ μ)),
    marks (h₁ ++ h₂) = marks h₁ ++ marks h₂
  | [], _ => rfl
  | ⟨.inl _, _⟩ :: h₁, h₂ => marks_append h₁ h₂
  | ⟨.inr m, _⟩ :: h₁, h₂ => congrArg (m :: ·) (marks_append h₁ h₂)

theorem marks_map_unmarked : ∀ h : List (Exchange ρ),
    marks (h.map unmarked : List (Exchange (Marked ρ μ))) = []
  | [] => rfl
  | _ :: h => marks_map_unmarked h

theorem exchanges_append : ∀ h₁ h₂ : List (Exchange (Marked ρ μ)),
    exchanges (h₁ ++ h₂) = exchanges h₁ ++ exchanges h₂
  | [], _ => rfl
  | ⟨.inl i, r⟩ :: h₁, h₂ => congrArg (List.cons (⟨i, r⟩ : Exchange ρ)) (exchanges_append h₁ h₂)
  | ⟨.inr _, _⟩ :: h₁, h₂ => exchanges_append h₁ h₂

theorem exchanges_map_unmarked : ∀ h : List (Exchange ρ),
    exchanges (h.map unmarked : List (Exchange (Marked ρ μ))) = h
  | [] => rfl
  | x :: h => congrArg (x :: ·) (exchanges_map_unmarked h)

theorem unmarked_injective :
    Function.Injective (unmarked : Exchange ρ → Exchange (Marked ρ μ)) := by
  rintro ⟨i, r⟩ ⟨j, q⟩ h
  cases h
  rfl

theorem mark_notMem_map_unmarked {m : μ} {h : List (Exchange ρ)} : mark m ∉ h.map unmarked := by
  intro hm
  obtain ⟨x, -, hx⟩ := List.mem_map.1 hm
  cases hx

/-- What stands before the first mark is determined. -/
theorem map_unmarked_append_mark : ∀ {g₁ g₂ : List (Exchange ρ)} {m₁ m₂ : μ}
    {h₁ h₂ : List (Exchange (Marked ρ μ))},
    g₁.map unmarked ++ mark m₁ :: h₁ = g₂.map unmarked ++ mark m₂ :: h₂ →
      g₁ = g₂ ∧ m₁ = m₂ ∧ h₁ = h₂
  | [], [], _, _, _, _, h => by
    cases h
    exact ⟨rfl, rfl, rfl⟩
  | [], y :: g₂, _, _, _, _, h => by cases (List.cons.inj h).1
  | x :: g₁, [], _, _, _, _, h => by cases (List.cons.inj h).1
  | x :: g₁, y :: g₂, _, _, _, _, h => by
    obtain ⟨hx, h⟩ := List.cons.inj h
    obtain ⟨rfl, hm, hh⟩ := map_unmarked_append_mark h
    exact ⟨congrArg (· :: g₁) (unmarked_injective hx), hm, hh⟩

namespace Program

/-- The program without its marks. -/
def erase : Program (ι ⊕ μ) (Marked ρ μ) α → Program ι ρ α
  | done a => done a
  | ask (.inl i) next => ask i fun r => erase (next r)
  | ask (.inr _) next => erase (next ())

/-- Lets a program take place among marks. -/
def among (μ : Type) (p : Program ι ρ α) : Program (ι ⊕ μ) (Marked ρ μ) α :=
  p.embed Sum.inl fun _ r => r

/-- Every history of a program is that of its marked one without the marks. -/
theorem exists_runs_of_erase {a : α} : ∀ {p : Program (ι ⊕ μ) (Marked ρ μ) α}
    {g : List (Exchange ρ)}, p.erase.Runs g a → ∃ h, exchanges h = g ∧ p.Runs h a
  | done _, _, ⟨rfl, ha⟩ => ⟨[], rfl, rfl, ha⟩
  | ask (.inl i) next, _, ⟨r, _, rfl, run⟩ => by
    obtain ⟨h, rfl, marked⟩ := exists_runs_of_erase run
    exact ⟨⟨.inl i, r⟩ :: h, rfl, r, h, rfl, marked⟩
  | ask (.inr m) next, _, run => by
    have erased : (next ()).erase.Runs _ a := run
    obtain ⟨h, rfl, marked⟩ := exists_runs_of_erase erased
    exact ⟨mark m :: h, rfl, (), h, rfl, marked⟩

/-- Answers requests as they are answered without marks. -/
def answerMarked (answer : (i : ι) → σ → ρ i × σ) : (i : ι ⊕ μ) → σ → Marked ρ μ i × σ
  | .inl i, s => answer i s
  | .inr _, s => ((), s)

theorem exchanges_history (answer : (i : ι) → σ → ρ i × σ) :
    ∀ (p : Program (ι ⊕ μ) (Marked ρ μ) α) (s : σ),
      exchanges (p.history (answerMarked answer) s) = p.erase.history answer s
  | done _, _ => rfl
  | ask (.inl i) next, s => congrArg (List.cons (⟨i, (answer i s).1⟩ : Exchange ρ))
    (exchanges_history answer (next (answer i s).1) _)
  | ask (.inr _) next, s => exchanges_history answer (next ()) s

theorem run_answerMarked (answer : (i : ι) → σ → ρ i × σ) :
    ∀ (p : Program (ι ⊕ μ) (Marked ρ μ) α) (s : σ),
      p.run (answerMarked answer) s = p.erase.run answer s
  | done _, _ => rfl
  | ask (.inl i) next, s => run_answerMarked answer (next (answer i s).1) _
  | ask (.inr _) next, s => run_answerMarked answer (next ()) s

theorem erase_bind (f : α → Program (ι ⊕ μ) (Marked ρ μ) β) :
    ∀ p : Program (ι ⊕ μ) (Marked ρ μ) α, (p.bind f).erase = p.erase.bind fun a => (f a).erase
  | done _ => rfl
  | ask (.inl i) next => congrArg (ask i) (funext fun r => erase_bind f (next r))
  | ask (.inr _) next => erase_bind f (next ())

theorem erase_among : ∀ p : Program ι ρ α, (p.among μ).erase = p
  | done _ => rfl
  | ask i next => congrArg (ask i) (funext fun r => erase_among (next r))

theorem runs_among {p : Program ι ρ α} {h : List (Exchange (Marked ρ μ))} {a : α} :
    (p.among μ).Runs h a ↔ ∃ g, h = g.map unmarked ∧ p.Runs g a :=
  runs_embed (f := Sum.inl) (τ := Marked ρ μ) (fun _ r => r) (fun _ _ => rfl) fun _ _ => rfl

end Program

namespace Work

/-- The work without its marks. -/
def erase (w : Work ε σ (Marked ρ μ) α) : Work ε σ ρ α := fun s => (w s).erase

theorem erase_bind (w : Work ε σ (Marked ρ μ) α) (f : α → Work ε σ (Marked ρ μ) β) :
    (w >>= f).erase = w.erase >>= fun a => (f a).erase := by
  funext s
  unfold erase
  rw [bind_apply, bind_apply, Program.erase_bind]
  refine congrArg (Program.bind (w s).erase) (funext ?_)
  rintro ⟨a | a, t⟩ <;> rfl

/-- Marks the state in which work begins. -/
def marked (m : σ → μ) (w : Work ε σ ρ α) : Work ε σ (Marked ρ μ) α :=
  fun s => .ask (.inr (m s)) fun _ => (w s).among μ

variable {m : σ → μ} {w : Work ε σ ρ α}

theorem erase_marked : (w.marked m).erase = w := funext fun s => Program.erase_among (w s)

theorem runs_marked {s : σ} {h : List (Exchange (Marked ρ μ))} {r : Except ε α × σ} :
    (w.marked m s).Runs h r ↔ ∃ g, h = mark (m s) :: g.map unmarked ∧ (w s).Runs g r := by
  constructor
  · rintro ⟨a, h', rfl, run⟩
    have among : ((w s).among μ).Runs h' r := run
    obtain ⟨g, rfl, run'⟩ := Program.runs_among.1 among
    exact ⟨g, rfl, run'⟩
  · rintro ⟨g, rfl, run⟩
    exact ⟨(), _, rfl, Program.runs_among.2 ⟨g, rfl, run⟩⟩

/-- Marked work gives up where the work does. -/
theorem GivesUpAt.marked {last : Exchange ρ → Prop} (hw : GivesUpAt last w) :
    GivesUpAt (fun x => ∃ y, x = unmarked y ∧ last y) (w.marked m) := by
  rintro s h₁ x h₂ r run ⟨y, rfl, hy⟩
  obtain ⟨g, hg, run'⟩ := runs_marked.1 run
  cases h₁ with
  | nil => cases (List.cons.inj hg).1
  | cons z h₁ =>
    obtain ⟨g₁, g₂, rfl, -, hg₂⟩ := List.map_eq_append_iff.1 (List.cons.inj hg).2.symm
    obtain ⟨y', g₂, rfl, hy', rfl⟩ := List.map_eq_cons_iff.1 hg₂
    rw [unmarked_injective hy'] at run'
    obtain ⟨rfl, he⟩ := hw s g₁ y g₂ r run' hy
    exact ⟨rfl, he⟩

end Work

end Dialogue
