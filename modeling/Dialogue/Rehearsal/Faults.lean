import Dialogue.Json.Record

/-!
# Faults

A rehearsal can let a named operation fail: always, or after it has gone well a number of times.
-/

namespace Dialogue

/-- The operations that fail always, and those that fail after a number of successes. -/
structure Faults where
  always : List String
  budget : List (String × Nat)
  deriving Repr

namespace Faults

/-- No faults. -/
def none : Faults := ⟨[], []⟩

/-- The number of successes of a member. -/
def successes? : String × Json → Option (String × Nat)
  | (name, .int n) => some (name, n.toNat)
  | _ => Option.none

/-- Reads faults: the names that fail always under `set`, the others under `budget`. -/
def ofJson (j : Json) : Faults where
  always := (((j.get? "set").bind Json.arr?).getD []).filterMap Json.str?
  budget := match j.get? "budget" with
    | some (.obj m) => m.filterMap successes?
    | _ => []

/-- Uses up one success of an operation. -/
def spend (name : String) : List (String × Nat) → List (String × Nat)
  | [] => []
  | (k, n) :: r => if k = name then (k, n - 1) :: r else (k, n) :: spend name r

/-- Whether an operation fails now, and the faults afterwards. -/
def strike (f : Faults) (name : String) : Bool × Faults :=
  if f.always.contains name then (true, f)
  else match f.budget.lookup name with
    | some 0 => (true, f)
    | some _ => (false, { f with budget := spend name f.budget })
    | Option.none => (false, f)

end Faults

end Dialogue
