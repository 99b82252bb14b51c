import Dialogue.Proofs.Work

/-!
# Programs that are judged by what they were told

What a program may ask can hang on what it was told before. `p.Traced ok post g` says that `p`,
going on after the history `g`, asks only what `ok` allows after the history so far, whatever it is
answered, and ends with a history and a result that `post` relates. It follows the program, so a
program that was left halfway is still traced; and it is shown question by question, each answer
going to the end of the history (`Work.traced_ask`), or part by part (`Traced.bind`).
-/

namespace Dialogue

variable {ι : Type} {ρ : ι → Type} {α β σ ε : Type}

namespace Program

/-- After the history `g` the program asks only what `ok` allows, and `post` relates the whole
history to its result. -/
def Traced (ok : List (Exchange ρ) → ι → Prop) (post : List (Exchange ρ) → α → Prop) :
    List (Exchange ρ) → Program ι ρ α → Prop
  | g, done a => post g a
  | g, ask i next => ok g i ∧ ∀ r, Traced ok post (g ++ [⟨i, r⟩]) (next r)

variable {ok : List (Exchange ρ) → ι → Prop} {post : List (Exchange ρ) → α → Prop}

theorem Traced.bind {f : α → Program ι ρ β} {post' : List (Exchange ρ) → β → Prop} :
    ∀ {p : Program ι ρ α} {g : List (Exchange ρ)}, p.Traced ok post g →
      (∀ h a, post h a → (f a).Traced ok post' h) → (p.bind f).Traced ok post' g
  | done a, g, traced, hf => hf g a traced
  | ask _ _, _, ⟨hi, hnext⟩, hf => ⟨hi, fun r => (hnext r).bind hf⟩

theorem Traced.mono {ok' : List (Exchange ρ) → ι → Prop} {post' : List (Exchange ρ) → α → Prop} :
    ∀ {p : Program ι ρ α} {g : List (Exchange ρ)}, p.Traced ok post g →
      (∀ h i, ok h i → ok' h i) → (∀ h a, post h a → post' h a) → p.Traced ok' post' g
  | done a, g, traced, _, hpost => hpost g a traced
  | ask i _, g, ⟨hi, hnext⟩, hok, hpost => ⟨hok g i hi, fun r => (hnext r).mono hok hpost⟩

/-- What is asked in a history is allowed after the part before it. -/
theorem Traced.allowed {i : ι} {r : ρ i} {h₂ : List (Exchange ρ)} {a : α} :
    ∀ {p : Program ι ρ α} {g h₁ : List (Exchange ρ)}, p.Traced ok post g →
      p.Runs (h₁ ++ ⟨i, r⟩ :: h₂) a → ok (g ++ h₁) i
  | done _, _, _, _, ⟨h, _⟩ => by simp at h
  | ask j next, g, h₁, ⟨hj, hnext⟩, ⟨q, h', hh, run⟩ => by
    cases h₁ with
    | nil =>
      obtain ⟨hx, -⟩ := List.cons.inj hh
      cases hx
      rw [List.append_nil]
      exact hj
    | cons y h₁ =>
      obtain ⟨rfl, rfl⟩ := List.cons.inj hh
      have hi := (hnext q).allowed run
      rwa [List.append_assoc] at hi

/-- Where the past has no say, all that is asked in a history is allowed. -/
theorem Traced.allowed_of_mem {may : ι → Prop} {p : Program ι ρ α} {g h : List (Exchange ρ)} {a : α}
    (traced : p.Traced (fun _ => may) post g) (run : p.Runs h a) : ∀ x ∈ h, may x.1 := by
  intro x hx
  obtain ⟨h₁, h₂, rfl⟩ := List.append_of_mem hx
  exact traced.allowed run

theorem Traced.result {a : α} : ∀ {p : Program ι ρ α} {g h : List (Exchange ρ)},
    p.Traced ok post g → p.Runs h a → post (g ++ h) a
  | done _, g, h, traced, ⟨hh, ha⟩ => by
    subst hh ha
    rw [List.append_nil]
    exact traced
  | ask j next, g, h, ⟨_, hnext⟩, ⟨q, h', hh, run⟩ => by
    subst hh
    have ha := (hnext q).result run
    rwa [List.append_assoc] at ha

end Program

namespace Work

variable {ok : List (Exchange ρ) → ι → Prop}

theorem bind_assoc_apply {γ : Type} (w : Work ε σ ρ α) (f : α → Work ε σ ρ β)
    (k : β → Work ε σ ρ γ) (s : σ) : (w >>= f >>= k) s = (w >>= fun a => f a >>= k) s := by
  rw [bind_apply, bind_apply, bind_apply, Program.bind_assoc]
  refine congrArg (Program.bind (w s)) (funext ?_)
  rintro ⟨e | a, t⟩
  · rfl
  · exact (bind_apply (f a) k t).symm

theorem traced_bind {w : Work ε σ ρ α} {f : α → Work ε σ ρ β} {s : σ} {g : List (Exchange ρ)}
    {post : List (Exchange ρ) → Except ε α × σ → Prop}
    {post' : List (Exchange ρ) → Except ε β × σ → Prop}
    (hw : (w s).Traced ok post g) (hf : ∀ h a t, post h (.ok a, t) → (f a t).Traced ok post' h)
    (he : ∀ h e t, post h (.error e, t) → post' h (.error e, t)) :
    ((w >>= f) s).Traced ok post' g := by
  rw [bind_apply]
  refine hw.bind ?_
  rintro h ⟨e | a, t⟩ ht
  · exact he h e t ht
  · exact hf h a t ht

end Work

end Dialogue
