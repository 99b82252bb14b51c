/-!
# Locks by key

Work on one key excludes other work on it; different keys never contend. A task first looks its
key up in a table, which makes an entry for a key that has none, then waits for the entry, acquires
it, and at last leaves it. When a look-up finds the table grown past a threshold, entries that no
task refers to are dropped first.
-/

namespace Dialogue

/-- A task's request for a key: the entry it found, and whether it has acquired it. -/
structure LockRequest (κ : Type) where
  task : Nat
  key : κ
  entry : Nat
  held : Bool
  deriving DecidableEq, Repr

/-- The entries of keys and the requests that refer to them. -/
structure KeyedLocks (κ : Type) where
  table : List (κ × Nat)
  requests : List (LockRequest κ)
  next : Nat
  deriving Repr

namespace KeyedLocks

variable {κ : Type} [DecidableEq κ]

/-- The number of entries that a table may have before unused ones are dropped. -/
def pruneThreshold : Nat := 1024

/-- No entries and no requests. -/
def empty : KeyedLocks κ := ⟨[], [], 0⟩

/-- Whether a task refers to an entry. -/
def isUsed (l : KeyedLocks κ) (entry : Nat) : Bool := l.requests.any fun r => r.entry == entry

/-- Whether a task has acquired an entry. -/
def isHeld (l : KeyedLocks κ) (entry : Nat) : Bool :=
  l.requests.any fun r => r.entry == entry && r.held

/-- The entry of a key. -/
def entry? (l : KeyedLocks κ) (key : κ) : Option Nat := l.table.lookup key

/-- Drops unused entries of a large table. -/
def prune (l : KeyedLocks κ) : KeyedLocks κ :=
  if pruneThreshold < l.table.length then
    { l with table := l.table.filter fun p => l.isUsed p.2 }
  else l

/-- Notes that a task waits for an entry. -/
def await (l : KeyedLocks κ) (task : Nat) (key : κ) (entry : Nat) : KeyedLocks κ :=
  { l with requests := l.requests ++ [⟨task, key, entry, false⟩] }

/-- Makes an entry for a key that has none. -/
def addEntry (l : KeyedLocks κ) (key : κ) : KeyedLocks κ :=
  { l with table := l.table ++ [(key, l.next)], next := l.next + 1 }

/-- Looks a key up for a task, which then waits for its entry. -/
def lookUp (l : KeyedLocks κ) (task : Nat) (key : κ) : KeyedLocks κ :=
  match l.prune.entry? key with
  | some entry => l.prune.await task key entry
  | none => (l.prune.addEntry key).await task key l.prune.next

/-- Whether a task waits for an entry that nobody has acquired. -/
def canAcquire (l : KeyedLocks κ) (task : Nat) : Bool :=
  l.requests.any fun r => r.task == task && !r.held && !l.isHeld r.entry

/-- Lets a task acquire the entry it waits for, if nobody has. -/
def acquire (l : KeyedLocks κ) (task : Nat) : KeyedLocks κ :=
  { l with requests := l.requests.map fun r =>
      if r.task == task && !l.isHeld r.entry then { r with held := true } else r }

/-- Ends what a task waits for or has acquired. -/
def leave (l : KeyedLocks κ) (task : Nat) : KeyedLocks κ :=
  { l with requests := l.requests.filter fun r => r.task != task }

/-- Whether a task has acquired a key. -/
def holds (l : KeyedLocks κ) (task : Nat) (key : κ) : Bool :=
  l.requests.any fun r => r.task == task && r.key == key && r.held

/-- The number of keys in the table. -/
def size (l : KeyedLocks κ) : Nat := l.table.length

/-- Looks a key up and acquires it, or gives up where that is not possible at once. -/
def tryLock (l : KeyedLocks κ) (task : Nat) (key : κ) : Bool × KeyedLocks κ :=
  let waiting := l.lookUp task key
  if waiting.canAcquire task then (true, waiting.acquire task) else (false, waiting.leave task)

end KeyedLocks

end Dialogue
