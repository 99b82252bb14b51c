import Dialogue.Program

/-!
# Histories of programs

A history lists what a program asked and what it was answered, in order. `p.Runs h a` says that
`p`, answered as in `h`, asks exactly what `h` lists and ends with `a`; collaborators that answer
from a state of their own leave such a history, whatever they are (`runs_history`). A history of
one program after another splits where the first one ends (`runs_bind`).

`p.Ensures ok post` says that every exchange of every history of `p` is `ok`, and every result is
one of `post`. It is shown part by part (`Ensures.bind`). Where what is `ok` hangs on a state that
the exchanges before lead to, `Along` says of a history that it is `ok` all along.
-/

namespace Dialogue

variable {ι κ : Type} {ρ : ι → Type} {τ : κ → Type} {α β σ ε : Type}

/-- A request and its answer. -/
abbrev Exchange (ρ : ι → Type) : Type := (i : ι) × ρ i

section Along

variable (next : σ → Exchange ρ → σ) (ok : σ → Exchange ρ → Prop)

/-- Every exchange of a history is `ok` in the state that the exchanges before it lead to. -/
def Along : σ → List (Exchange ρ) → Prop
  | _, [] => True
  | s, x :: h => ok s x ∧ Along (next s x) h

variable {next ok}

theorem along_append : ∀ {s : σ} {h₁ h₂ : List (Exchange ρ)},
    Along next ok s (h₁ ++ h₂) ↔ Along next ok s h₁ ∧ Along next ok (h₁.foldl next s) h₂
  | _, [], _ => (true_and _).symm.to_iff
  | s, x :: h₁, h₂ => by
    show _ ∧ Along next ok (next s x) (h₁ ++ h₂) ↔ (_ ∧ _) ∧ _
    rw [along_append, and_assoc]
    rfl

theorem Along.at {s : σ} {h₁ h₂ : List (Exchange ρ)} {x : Exchange ρ}
    (along : Along next ok s (h₁ ++ x :: h₂)) : ok (h₁.foldl next s) x :=
  (along_append.1 along).2.1

theorem Along.of_mem {s : σ} {h : List (Exchange ρ)} {x : Exchange ρ}
    (along : Along next ok s h) (hx : x ∈ h) : ∃ t, ok t x := by
  obtain ⟨h₁, h₂, rfl⟩ := List.append_of_mem hx
  exact ⟨_, along.at⟩

end Along

namespace Program

/-- Answered as in a history, the program asks what the history lists and ends with a result. -/
def Runs : Program ι ρ α → List (Exchange ρ) → α → Prop
  | done a, h, b => h = [] ∧ b = a
  | ask i next, h, b => ∃ r h', h = ⟨i, r⟩ :: h' ∧ (next r).Runs h' b

/-- The history that collaborators leave who answer from a state. -/
def history (answer : (i : ι) → σ → ρ i × σ) : Program ι ρ α → σ → List (Exchange ρ)
  | done _, _ => []
  | ask i next, s => ⟨i, (answer i s).1⟩ :: history answer (next (answer i s).1) (answer i s).2

theorem runs_history (answer : (i : ι) → σ → ρ i × σ) :
    ∀ (p : Program ι ρ α) (s : σ), p.Runs (p.history answer s) (p.run answer s).1
  | done _, _ => ⟨rfl, rfl⟩
  | ask i next, s => ⟨_, _, rfl, runs_history answer (next (answer i s).1) _⟩

theorem history_bind (answer : (i : ι) → σ → ρ i × σ) (f : α → Program ι ρ β) :
    ∀ (p : Program ι ρ α) (s : σ), (p.bind f).history answer s
      = p.history answer s ++ (f (p.run answer s).1).history answer (p.run answer s).2
  | done _, _ => rfl
  | ask _ _, _ => congrArg (List.cons _) (history_bind answer f _ _)

theorem runs_request {i : ι} {h : List (Exchange ρ)} {r : ρ i} :
    (request i : Program ι ρ (ρ i)).Runs h r ↔ h = [⟨i, r⟩] := by
  constructor
  · rintro ⟨r', h', rfl, rfl, rfl⟩
    rfl
  · rintro rfl
    exact ⟨r, [], rfl, rfl, rfl⟩

theorem runs_bind {f : α → Program ι ρ β} {b : β} :
    ∀ {p : Program ι ρ α} {h : List (Exchange ρ)},
      (p.bind f).Runs h b ↔ ∃ h₁ a h₂, h = h₁ ++ h₂ ∧ p.Runs h₁ a ∧ (f a).Runs h₂ b
  | done a, h => by
    constructor
    · intro run
      exact ⟨[], a, h, rfl, ⟨rfl, rfl⟩, run⟩
    · rintro ⟨h₁, a', h₂, rfl, ⟨rfl, rfl⟩, run⟩
      exact run
  | ask i next, h => by
    constructor
    · rintro ⟨r, h', rfl, run⟩
      obtain ⟨h₁, a, h₂, rfl, run₁, run₂⟩ := runs_bind.1 run
      exact ⟨⟨i, r⟩ :: h₁, a, h₂, rfl, ⟨r, h₁, rfl, run₁⟩, run₂⟩
    · rintro ⟨h₁, a, h₂, rfl, ⟨r, h', rfl, run₁⟩, run₂⟩
      exact ⟨r, h' ++ h₂, rfl, runs_bind.2 ⟨h', a, h₂, rfl, run₁, run₂⟩⟩

/-- An exchange of one program after another is one of the first or one of the second. -/
theorem runs_bind_at {p : Program ι ρ α} {f : α → Program ι ρ β} {b : β}
    {h₁ h₂ : List (Exchange ρ)} {x : Exchange ρ} (run : (p.bind f).Runs (h₁ ++ x :: h₂) b) :
    (∃ a g₁ g₂, h₂ = g₁ ++ g₂ ∧ p.Runs (h₁ ++ x :: g₁) a ∧ (f a).Runs g₂ b)
      ∨ ∃ a g₁ g₂, h₁ = g₁ ++ g₂ ∧ p.Runs g₁ a ∧ (f a).Runs (g₂ ++ x :: h₂) b := by
  obtain ⟨k₁, a, k₂, hk, run₁, run₂⟩ := runs_bind.1 run
  rcases List.append_eq_append_iff.1 hk with ⟨g, rfl, hg⟩ | ⟨g, rfl, hg⟩
  · rcases List.cons_eq_append_iff.1 hg with ⟨rfl, rfl⟩ | ⟨g', rfl, rfl⟩
    · exact .inr ⟨a, h₁ ++ [], [], by simp, run₁, run₂⟩
    · exact .inl ⟨a, g', k₂, rfl, run₁, run₂⟩
  · exact .inr ⟨a, k₁, g, rfl, run₁, hg ▸ run₂⟩

theorem runs_of_embed {f : ι → κ} {back : (i : ι) → τ (f i) → ρ i} :
    ∀ {p : Program ι ρ α} {h : List (Exchange τ)} {a : α}, (p.embed f back).Runs h a →
      ∃ g, p.Runs g a ∧ ∀ y ∈ h, ∃ i r, y = ⟨f i, r⟩ ∧ ⟨i, back i r⟩ ∈ g
  | done _, _, _, ⟨rfl, rfl⟩ => ⟨[], ⟨rfl, rfl⟩, by simp⟩
  | ask i next, _, a, ⟨r, h', rfl, run⟩ => by
    obtain ⟨g, run', hg⟩ := runs_of_embed run
    refine ⟨⟨i, back i r⟩ :: g, ⟨back i r, g, rfl, run'⟩, fun y hy => ?_⟩
    rcases List.mem_cons.1 hy with rfl | hy
    · exact ⟨i, r, rfl, List.mem_cons_self⟩
    · obtain ⟨j, q, rfl, hj⟩ := hg y hy
      exact ⟨j, q, rfl, List.mem_cons_of_mem _ hj⟩

/-- The histories of requests that are put into a larger family, where `up` and `back` turn the
answers into each other. -/
theorem runs_embed {f : ι → κ} {back : (i : ι) → τ (f i) → ρ i} (up : (i : ι) → ρ i → τ (f i))
    (back_up : ∀ i r, back i (up i r) = r) (up_back : ∀ i r, up i (back i r) = r) :
    ∀ {p : Program ι ρ α} {h : List (Exchange τ)} {a : α}, (p.embed f back).Runs h a
      ↔ ∃ g, h = g.map (fun x => ⟨f x.1, up x.1 x.2⟩) ∧ p.Runs g a
  | done a, h, b => by
    constructor
    · rintro ⟨rfl, rfl⟩
      exact ⟨[], rfl, rfl, rfl⟩
    · rintro ⟨g, rfl, rfl, rfl⟩
      exact ⟨rfl, rfl⟩
  | ask i next, h, b => by
    constructor
    · rintro ⟨r, h', rfl, run⟩
      obtain ⟨g, rfl, run'⟩ := (runs_embed up back_up up_back).1 run
      exact ⟨⟨i, back i r⟩ :: g, by rw [List.map_cons, up_back], back i r, g, rfl, run'⟩
    · rintro ⟨g, rfl, r, g', rfl, run⟩
      refine ⟨up i r, g'.map _, rfl, (runs_embed up back_up up_back).2 ⟨g', rfl, ?_⟩⟩
      rw [back_up]
      exact run

/-- Every exchange of the program is one that is `ok`, and every result one of `post`. -/
def Ensures (p : Program ι ρ α) (ok : Exchange ρ → Prop) (post : α → Prop) : Prop :=
  ∀ h a, p.Runs h a → (∀ x ∈ h, ok x) ∧ post a

section Ensures

variable {ok : Exchange ρ → Prop} {post : α → Prop}

theorem Ensures.done {a : α} (ha : post a) : (done a : Program ι ρ α).Ensures ok post := by
  rintro h b ⟨rfl, rfl⟩
  exact ⟨by simp, ha⟩

theorem Ensures.trivial {p : Program ι ρ α} : p.Ensures (fun _ => True) fun _ => True :=
  fun _ _ _ => ⟨fun _ _ => .intro, .intro⟩

theorem Ensures.ask {i : ι} {next : ρ i → Program ι ρ α}
    (h : ∀ r, ok ⟨i, r⟩ ∧ (next r).Ensures ok post) :
    (ask i next : Program ι ρ α).Ensures ok post := by
  rintro _ a ⟨r, h', rfl, run⟩
  obtain ⟨hr, hnext⟩ := h r
  obtain ⟨hx, ha⟩ := hnext h' a run
  exact ⟨List.forall_mem_cons.2 ⟨hr, hx⟩, ha⟩

theorem Ensures.bind {p : Program ι ρ α} {f : α → Program ι ρ β} {mid : α → Prop}
    {post : β → Prop} (hp : p.Ensures ok mid) (hf : ∀ a, mid a → (f a).Ensures ok post) :
    (p.bind f).Ensures ok post := by
  intro h b run
  obtain ⟨h₁, a, h₂, rfl, run₁, run₂⟩ := runs_bind.1 run
  obtain ⟨ok₁, ha⟩ := hp h₁ a run₁
  obtain ⟨ok₂, hb⟩ := hf a ha h₂ b run₂
  refine ⟨fun x hx => ?_, hb⟩
  rcases List.mem_append.1 hx with hx | hx
  · exact ok₁ x hx
  · exact ok₂ x hx

theorem Ensures.embed {p : Program ι ρ α} {f : ι → κ} {back : (i : ι) → τ (f i) → ρ i}
    {ok' : Exchange τ → Prop} (hp : p.Ensures ok post)
    (hok : ∀ i r, ok ⟨i, back i r⟩ → ok' ⟨f i, r⟩) : (p.embed f back).Ensures ok' post := by
  intro h a run
  obtain ⟨g, run', hg⟩ := runs_of_embed run
  obtain ⟨hx, ha⟩ := hp g a run'
  refine ⟨fun y hy => ?_, ha⟩
  obtain ⟨i, r, rfl, hi⟩ := hg y hy
  exact hok i r (hx _ hi)

end Ensures

end Program

end Dialogue
