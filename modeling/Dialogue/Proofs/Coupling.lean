import Dialogue.Proofs.History
import Mathlib.Data.List.Forall2

/-!
# Two programs side by side

Two programs are coupled by a relation of exchanges if they ask in step: each request of the one can
be paired with the request of the other, and however the two are answered by a pair, what they go on
with is coupled again. It is shown part by part (`Coupled.bind`), and a program is coupled to itself
where its exchanges are paired with themselves only (`Ensures.coupled`).

Collaborators that answer coupled requests by pairs, from states that are alike, leave states that
are alike again (`Coupled.run`), whatever the programs do in between.
-/

namespace Dialogue.Program

variable {ι : Type} {ρ : ι → Type} {α β γ δ σ τ : Type}

/-- The programs ask in step, and their results are related. -/
def Coupled (pair : Exchange ρ → Exchange ρ → Prop) (post : α → β → Prop) :
    Program ι ρ α → Program ι ρ β → Prop
  | done a, done b => post a b
  | ask i f, ask j g => (∃ r s, pair ⟨i, r⟩ ⟨j, s⟩)
    ∧ ∀ r s, pair ⟨i, r⟩ ⟨j, s⟩ → Coupled pair post (f r) (g s)
  | _, _ => False

variable {pair : Exchange ρ → Exchange ρ → Prop} {post : α → β → Prop}

theorem Coupled.bind {f : α → Program ι ρ γ} {g : β → Program ι ρ δ} {post' : γ → δ → Prop}
    (next : ∀ a b, post a b → Coupled pair post' (f a) (g b)) :
    ∀ {p : Program ι ρ α} {q : Program ι ρ β}, Coupled pair post p q →
      Coupled pair post' (p.bind f) (q.bind g)
  | done a, done b, h => next a b h
  | ask _ _, ask _ _, ⟨asked, told⟩ => ⟨asked, fun r s h => Coupled.bind next (told r s h)⟩
  | done _, ask _ _, h => h.elim
  | ask _ _, done _, h => h.elim

theorem Coupled.mono {post' : α → β → Prop} (wider : ∀ a b, post a b → post' a b) :
    ∀ {p : Program ι ρ α} {q : Program ι ρ β}, Coupled pair post p q → Coupled pair post' p q
  | done a, done b, h => wider a b h
  | ask _ _, ask _ _, ⟨asked, told⟩ => ⟨asked, fun r s h => (told r s h).mono wider⟩
  | done _, ask _ _, h => h.elim
  | ask _ _, done _, h => h.elim

theorem coupled_request {i : ι} {post : ρ i → ρ i → Prop} (asked : ∃ r s, pair ⟨i, r⟩ ⟨i, s⟩)
    (told : ∀ r s, pair ⟨i, r⟩ ⟨i, s⟩ → post r s) :
    Coupled pair post (request i : Program ι ρ (ρ i)) (request i) :=
  ⟨asked, told⟩

section Diagonal

variable [∀ i, Nonempty (ρ i)]

theorem exists_runs : ∀ p : Program ι ρ α, ∃ h a, p.Runs h a
  | done a => ⟨[], a, rfl, rfl⟩
  | ask i next => by
    obtain ⟨h, a, run⟩ := exists_runs (next (Classical.arbitrary _))
    exact ⟨_, a, _, h, rfl, run⟩

/-- A program is coupled to itself if each of its exchanges is paired with itself, and with no other
answer to the same request. -/
theorem Ensures.coupled {ok : Exchange ρ → Prop} {post : α → Prop}
    (same : ∀ x, ok x → pair x x) (only : ∀ i r s, ok ⟨i, r⟩ → pair ⟨i, r⟩ ⟨i, s⟩ → s = r) :
    ∀ {p : Program ι ρ α}, p.Ensures ok post → Coupled pair (fun a b => b = a ∧ post a) p p
  | .done a, ensures => ⟨rfl, (ensures [] a ⟨rfl, rfl⟩).2⟩
  | .ask i next, ensures => by
    -- What is known of exchanges is known of whole runs, so each answer is taken to a run's end.
    have here (r : ρ i) : ok ⟨i, r⟩ := by
      obtain ⟨h, a, run⟩ := exists_runs (next r)
      exact (ensures _ a ⟨r, h, rfl, run⟩).1 _ List.mem_cons_self
    refine ⟨⟨Classical.arbitrary _, _, same _ (here _)⟩, fun r s told => ?_⟩
    obtain rfl := only i r s (here r) told
    refine Ensures.coupled same only fun h a run => ?_
    obtain ⟨rest, ha⟩ := ensures _ a ⟨s, h, rfl, run⟩
    exact ⟨fun x hx => rest x (List.mem_cons_of_mem _ hx), ha⟩

end Diagonal

/-- Collaborators that answer paired requests by pairs, and go from states that are alike to such
states, do so along coupled programs. -/
theorem Coupled.run {answer : (i : ι) → σ → ρ i × σ} {answer' : (i : ι) → τ → ρ i × τ}
    {alike : σ → τ → Prop}
    (step : ∀ i j s t, (∃ r r', pair ⟨i, r⟩ ⟨j, r'⟩) → alike s t →
      pair ⟨i, (answer i s).1⟩ ⟨j, (answer' j t).1⟩ ∧ alike (answer i s).2 (answer' j t).2) :
    ∀ {p : Program ι ρ α} {q : Program ι ρ β} {s : σ} {t : τ}, Coupled pair post p q →
      alike s t → post (p.run answer s).1 (q.run answer' t).1
        ∧ alike (p.run answer s).2 (q.run answer' t).2
        ∧ List.Forall₂ pair (p.history answer s) (q.history answer' t)
  | done _, done _, _, _, h, same => ⟨h, same, .nil⟩
  | ask i _, ask j _, s, t, ⟨asked, told⟩, same => by
    obtain ⟨here, next⟩ := step i j s t asked same
    obtain ⟨ended, last, rest⟩ := Coupled.run step (told _ _ here) next
    exact ⟨ended, last, .cons here rest⟩
  | done _, ask _ _, _, _, h, _ => h.elim
  | ask _ _, done _, _, _, h, _ => h.elim

end Dialogue.Program
