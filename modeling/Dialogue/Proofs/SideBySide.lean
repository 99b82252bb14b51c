import Dialogue.Proofs.History

/-!
# Histories side by side

Programs that run side by side are answered in turns. All that their histories tell of the order is
that each program's own exchanges stay in theirs: the history of it all is woven from those of the
programs (`SideBySide`). One after another is one way of doing that (`sideBySide_flatten`), by turns
is another (`sideBySide_byTurns`).

Where the state that is looked at changes by the exchanges of one program only, the history of it
all is to that program what its own is (`SideBySide.along`).
-/

namespace Dialogue

variable {α σ ι : Type} {ρ : ι → Type}

/-- Every element is one of the first or the second list, and those of each stay in order. -/
inductive Woven : List α → List α → List α → Prop
  | nil : Woven [] [] []
  | left {x : α} {u v w : List α} (h : Woven u v w) : Woven (x :: u) v (x :: w)
  | right {x : α} {u v w : List α} (h : Woven u v w) : Woven u (x :: v) (x :: w)

/-- Every element is one of some list, and those of each list stay in order. -/
def SideBySide : List (List α) → List α → Prop
  | [], w => w = []
  | u :: lists, w => ∃ v, SideBySide lists v ∧ Woven u v w

namespace Woven

theorem symm {u v w : List α} (h : Woven u v w) : Woven v u w := by
  induction h with
  | nil => exact .nil
  | left _ ih => exact .right ih
  | right _ ih => exact .left ih

theorem mem_iff {u v w : List α} (h : Woven u v w) {x : α} : x ∈ w ↔ x ∈ u ∨ x ∈ v := by
  induction h with
  | nil => simp
  | left _ ih => rw [List.mem_cons, List.mem_cons, ih, or_assoc]
  | right _ ih => rw [List.mem_cons, List.mem_cons, ih, or_left_comm]

/-- The second list alone. -/
theorem nil_left : ∀ v : List α, Woven [] v v
  | [] => .nil
  | _ :: v => .right (nil_left v)

/-- The first list, and behind it the second. -/
theorem append (v : List α) : ∀ u : List α, Woven u v (u ++ v)
  | [] => nil_left v
  | _ :: u => .left (append v u)

/-- A filter that lets nothing of the second list pass sees the first one alone. -/
theorem filterMap_eq {β : Type} {f : α → Option β} {u v w : List α} (h : Woven u v w)
    (stopped : ∀ x ∈ v, f x = none) : w.filterMap f = u.filterMap f := by
  induction h with
  | nil => rfl
  | left _ ih => rw [List.filterMap_cons, List.filterMap_cons, ih stopped]
  | right _ ih =>
    obtain ⟨here, others⟩ := List.forall_mem_cons.1 stopped
    rw [List.filterMap_cons_none here, ih others]

variable {next : σ → Exchange ρ → σ} {ok : σ → Exchange ρ → Prop}

/-- Exchanges that change nothing may be left out. -/
theorem along {u v w : List (Exchange ρ)} (h : Woven u v w)
    (silent : ∀ x ∈ v, ∀ s, next s x = s) {s : σ} (along : Along next ok s w) :
    Along next ok s u ∧ w.foldl next s = u.foldl next s := by
  induction h generalizing s with
  | nil => exact ⟨along, rfl⟩
  | left _ ih =>
    obtain ⟨here, later⟩ := along
    obtain ⟨rest, ends⟩ := ih silent later
    exact ⟨⟨here, rest⟩, ends⟩
  | @right x _ _ _ _ ih =>
    obtain ⟨same, others⟩ := List.forall_mem_cons.1 silent
    obtain ⟨-, later⟩ := along
    rw [same s] at later
    obtain ⟨rest, ends⟩ := ih others later
    refine ⟨rest, ?_⟩
    rw [List.foldl_cons, same s]
    exact ends

end Woven

namespace SideBySide

theorem mem_iff {x : α} : ∀ {lists : List (List α)} {w : List α}, SideBySide lists w →
    (x ∈ w ↔ ∃ u ∈ lists, x ∈ u)
  | [], w, h => by
    rw [show w = [] from h]
    simp
  | u :: lists, w, ⟨v, others, woven⟩ => by
    rw [woven.mem_iff, others.mem_iff]
    simp only [List.mem_cons, exists_eq_or_imp]

variable {next : σ → Exchange ρ → σ} {ok : σ → Exchange ρ → Prop}

/-- What the exchanges of a list alone can change comes of them alone. -/
theorem along {u : List (Exchange ρ)} {after : List (List (Exchange ρ))} :
    ∀ {before : List (List (Exchange ρ))} {w : List (Exchange ρ)},
      SideBySide (before ++ u :: after) w →
      (∀ v ∈ before ++ after, ∀ x ∈ v, ∀ s, next s x = s) →
      ∀ {s : σ}, Along next ok s w → Along next ok s u ∧ w.foldl next s = u.foldl next s
  | [], w, ⟨v, others, woven⟩, silent, s, along => by
    refine woven.along (fun x hx => ?_) along
    obtain ⟨u', hu', hx⟩ := others.mem_iff.1 hx
    exact silent u' hu' x hx
  | b :: before, w, ⟨v, others, woven⟩, silent, s, along => by
    obtain ⟨first, rest⟩ := List.forall_mem_cons.1 silent
    obtain ⟨along, ends⟩ := woven.symm.along first along
    obtain ⟨own, ends'⟩ := SideBySide.along others rest along
    exact ⟨own, ends.trans ends'⟩

end SideBySide

/-- Two lists by turns, as long as there are elements of both. -/
def byTurns : List α → List α → List α
  | [], v => v
  | u, [] => u
  | x :: u, y :: v => x :: y :: byTurns u v

theorem woven_byTurns : ∀ u v : List α, Woven u v (byTurns u v)
  | [], v => .nil_left v
  | x :: u, [] => (Woven.nil_left (x :: u)).symm
  | _ :: u, _ :: v => .left (.right (woven_byTurns u v))

theorem sideBySide_byTurns : ∀ lists : List (List α), SideBySide lists (lists.foldr byTurns [])
  | [] => rfl
  | u :: lists => ⟨_, sideBySide_byTurns lists, woven_byTurns u _⟩

/-- One after another. -/
theorem sideBySide_flatten : ∀ lists : List (List α), SideBySide lists lists.flatten
  | [] => rfl
  | u :: lists => ⟨lists.flatten, sideBySide_flatten lists, .append lists.flatten u⟩

end Dialogue
