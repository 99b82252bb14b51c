/-!
# Programs that ask

A program either ends with a result or asks its collaborators something and goes on with the
answer. What the collaborators answer is not part of a program, so a statement about a program is a
statement about all collaborators. A program runs against a state that answers and changes, or
against a history of answers that were given.
-/

namespace Dialogue

/-- A program over requests `ι`, each of which has answers of its own type. -/
inductive Program (ι : Type) (ρ : ι → Type) (α : Type) : Type where
  | done (a : α)
  | ask (i : ι) (next : ρ i → Program ι ρ α)

namespace Program

variable {ι κ : Type} {ρ : ι → Type} {τ : κ → Type} {α β γ σ : Type}

/-- Goes on with the result of a program. -/
def bind : Program ι ρ α → (α → Program ι ρ β) → Program ι ρ β
  | done a, f => f a
  | ask i next, f => ask i fun r => bind (next r) f

instance : Monad (Program ι ρ) where
  pure := done
  bind := bind

/-- Asks and gives the answer back. -/
def request (i : ι) : Program ι ρ (ρ i) := ask i done

theorem bind_done (p : Program ι ρ α) : p.bind done = p := by
  induction p with
  | done a => rfl
  | ask i next ih => exact congrArg (ask i) (funext ih)

theorem bind_assoc (p : Program ι ρ α) (f : α → Program ι ρ β) (g : β → Program ι ρ γ) :
    (p.bind f).bind g = p.bind fun a => (f a).bind g := by
  induction p with
  | done a => rfl
  | ask i next ih => exact congrArg (ask i) (funext ih)

/-- Runs a program against a state that answers requests. -/
def run (answer : (i : ι) → σ → ρ i × σ) : Program ι ρ α → σ → α × σ
  | done a, s => (a, s)
  | ask i next, s => run answer (next (answer i s).1) (answer i s).2

/-- Puts a program's requests into a larger family of requests. -/
def embed (f : ι → κ) (back : (i : ι) → τ (f i) → ρ i) : Program ι ρ α → Program κ τ α
  | done a => done a
  | ask i next => ask (f i) fun r => embed f back (next (back i r))

theorem run_bind (answer : (i : ι) → σ → ρ i × σ) (p : Program ι ρ α) (f : α → Program ι ρ β)
    (s : σ) :
    (p.bind f).run answer s = (f (p.run answer s).1).run answer (p.run answer s).2 := by
  induction p generalizing s with
  | done a => rfl
  | ask i next ih => exact ih _ _

end Program

end Dialogue
