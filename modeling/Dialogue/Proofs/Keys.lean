import Mathlib.Data.List.Nodup

/-!
# Tables by keys

A table is a list of pairs, in which a key is looked up. Where it has each key once, what is found
is what stands beside the key (`lookup_eq_some_iff`), and that stays so when a pair is added for a
key that was not found (`nodup_concat`).
-/

namespace Dialogue

namespace Keys

variable {κ α : Type} [DecidableEq κ] {table : List (κ × α)} {key : κ}

theorem lookup_eq_some_iff (keys : (table.map Prod.fst).Nodup) {a : α} :
    table.lookup key = some a ↔ (key, a) ∈ table := by
  constructor
  · intro found
    obtain ⟨before, after, rfl, -⟩ := List.lookup_eq_some_iff.1 found
    exact List.mem_append_right _ List.mem_cons_self
  · intro mem
    obtain ⟨before, after, rfl⟩ := List.append_of_mem mem
    refine List.lookup_eq_some_iff.2 ⟨before, after, rfl, fun p hp => bne_iff_ne.2 fun same => ?_⟩
    rw [List.map_append, List.nodup_append] at keys
    exact keys.2.2 _ (List.mem_map_of_mem hp) key (List.mem_map.2 ⟨_, List.mem_cons_self, rfl⟩)
      same.symm

theorem lookup_eq_none_iff : table.lookup key = none ↔ key ∉ table.map Prod.fst := by
  rw [List.lookup_eq_none_iff, List.mem_map]
  simp only [bne_iff_ne]
  exact ⟨fun absent ⟨p, hp, same⟩ => absent p hp same.symm,
    fun absent p hp same => absent ⟨p, hp, same.symm⟩⟩

theorem nodup_concat (keys : (table.map Prod.fst).Nodup) (absent : table.lookup key = none)
    (a : α) : ((table ++ [(key, a)]).map Prod.fst).Nodup := by
  simpa using keys.concat (lookup_eq_none_iff.1 absent)

theorem lookup_map_self (f : κ → α) : ∀ {keys : List κ}, key ∈ keys →
    (keys.map fun k => (k, f k)).lookup key = some (f key)
  | k :: keys, mem => by
    rw [List.map_cons, List.lookup_cons]
    by_cases h : key = k
    · rw [beq_iff_eq.2 h, h]
    · rw [beq_eq_false_iff_ne.2 h]
      exact lookup_map_self f ((List.mem_cons.1 mem).resolve_left h)

end Keys

end Dialogue
