import Mathlib.Logic.Relation
import Dialogue.Conversation.Locks
import Dialogue.Proofs.Keys

/-!
# One task at a time holds a key

Tasks look keys up, acquire and release them in any order, and entries come and go with them. What
keeps two tasks from different entries of one key is that a look-up is one step: it drops only
entries that no request refers to, and refers to the entry it found or made before the next step
(`Sound.lookUp`). So every request refers to the entry that the table has for its key (`Sound`), and
as an entry is acquired by one request at a time, so is a key (`serialized`).
-/

namespace Dialogue

namespace KeyedLocks

variable {κ : Type} {l : KeyedLocks κ}

/-- Whether a task waits for an entry. -/
def Waits (l : KeyedLocks κ) (task : Nat) : Prop :=
  ∃ r ∈ l.requests, r.task = task ∧ r.held = false

/-- The references to an entry: one of each place in the table, and one of each request. -/
def references (l : KeyedLocks κ) (entry : Nat) : Nat :=
  (l.table.countP fun p => p.2 == entry) + l.requests.countP fun r => r.entry == entry

/-- Each key has one entry and each entry one key, and the next entry is a new one. Requests refer
to the entries of their keys. An entry is held by one request at most, and a task waits for one at
most. -/
structure Sound (l : KeyedLocks κ) : Prop where
  keys : (l.table.map Prod.fst).Nodup
  entries : (l.table.map Prod.snd).Nodup
  lt_next : ∀ p ∈ l.table, p.2 < l.next
  current : ∀ r ∈ l.requests, (r.key, r.entry) ∈ l.table
  exclusive : l.requests.Pairwise fun r s => r.held → s.held → r.entry ≠ s.entry
  waiting : l.requests.Pairwise fun r s => r.held = false → s.held = false → r.task ≠ s.task

theorem sound_empty : (empty : KeyedLocks κ).Sound :=
  ⟨List.nodup_nil, List.nodup_nil, List.forall_mem_nil _, List.forall_mem_nil _, .nil, .nil⟩

theorem isUsed_iff {entry : Nat} : l.isUsed entry = true ↔ ∃ r ∈ l.requests, r.entry = entry := by
  simp [isUsed]

theorem isHeld_iff {entry : Nat} :
    l.isHeld entry = true ↔ ∃ r ∈ l.requests, r.entry = entry ∧ r.held = true := by
  simp [isHeld]

/-! ## What is dropped -/

theorem mem_prune_iff {p : κ × Nat} : p ∈ l.prune.table
    ↔ p ∈ l.table ∧ (pruneThreshold < l.table.length → l.isUsed p.2 = true) := by
  unfold prune
  split
  · rename_i large
    simp [large]
  · rename_i small
    simp [small]

theorem prune_sublist (l : KeyedLocks κ) : l.prune.table.Sublist l.table := by
  unfold prune
  split
  · exact List.filter_sublist
  · exact .refl _

@[simp]
theorem requests_prune (l : KeyedLocks κ) : l.prune.requests = l.requests := by
  unfold prune
  split <;> rfl

@[simp]
theorem next_prune (l : KeyedLocks κ) : l.prune.next = l.next := by
  unfold prune
  split <;> rfl

/-- An entry of the table is used if there are references to it beside the table's own. -/
theorem Sound.isUsed_iff_references (sound : l.Sound) {p : κ × Nat} (hp : p ∈ l.table) :
    l.isUsed p.2 = true ↔ 1 < l.references p.2 := by
  have own : (l.table.countP fun q => q.2 == p.2) = 1 := by
    have once := List.count_eq_one_of_mem sound.entries (List.mem_map_of_mem hp)
    rwa [List.count, List.countP_map] at once
  rw [references, own, isUsed_iff, Nat.lt_add_right_iff_pos, List.countP_pos_iff]
  simp

/-! ## Each step -/

theorem Sound.prune (sound : l.Sound) : l.prune.Sound where
  keys := sound.keys.sublist ((prune_sublist l).map _)
  entries := sound.entries.sublist ((prune_sublist l).map _)
  lt_next p hp := by
    rw [next_prune]
    exact sound.lt_next p ((prune_sublist l).mem hp)
  current r hr := by
    rw [requests_prune] at hr
    exact mem_prune_iff.2 ⟨sound.current r hr, fun _ => isUsed_iff.2 ⟨r, hr, rfl⟩⟩
  exclusive := by
    rw [requests_prune]
    exact sound.exclusive
  waiting := by
    rw [requests_prune]
    exact sound.waiting

/-- A request that refers to the entry of its key may wait, if its task waits for nothing else. -/
theorem Sound.await (sound : l.Sound) {task entry : Nat} {key : κ}
    (found : (key, entry) ∈ l.table) (idle : ¬ l.Waits task) : (l.await task key entry).Sound where
  keys := sound.keys
  entries := sound.entries
  lt_next := sound.lt_next
  current r hr := by
    rcases List.mem_append.1 hr with hr | hr
    · exact sound.current r hr
    · rw [List.mem_singleton.1 hr]
      exact found
  exclusive := by
    refine List.pairwise_append.2 ⟨sound.exclusive, List.pairwise_singleton _ _, ?_⟩
    rintro r - s hs - held
    rw [List.mem_singleton.1 hs] at held
    cases held
  waiting := by
    refine List.pairwise_append.2 ⟨sound.waiting, List.pairwise_singleton _ _, ?_⟩
    rintro r hr s hs waits - same
    rw [List.mem_singleton.1 hs] at same
    exact idle ⟨r, hr, same, waits⟩

/-- A request once its task acquires: it changes if it waits for an entry that nobody holds. -/
def acquired (l : KeyedLocks κ) (task : Nat) (r : LockRequest κ) : LockRequest κ :=
  if r.task == task && !l.isHeld r.entry then { r with held := true } else r

theorem requests_acquire (l : KeyedLocks κ) (task : Nat) :
    (l.acquire task).requests = l.requests.map (l.acquired task) := rfl

theorem acquired_cases (l : KeyedLocks κ) (task : Nat) {r : LockRequest κ} (hr : r ∈ l.requests) :
    l.acquired task r = r
      ∨ l.acquired task r = { r with held := true } ∧ r.task = task ∧ r.held = false
        ∧ ∀ s ∈ l.requests, s.entry = r.entry → s.held = false := by
  unfold acquired
  split
  · rename_i free
    simp only [Bool.and_eq_true, beq_iff_eq, Bool.not_eq_true', Bool.eq_false_iff, ne_eq,
      isHeld_iff, not_exists, not_and] at free
    have nobody : ∀ s ∈ l.requests, s.entry = r.entry → s.held = false :=
      fun s hs same => Bool.eq_false_iff.2 (free.2 s hs same)
    exact .inr ⟨rfl, free.1, nobody r hr rfl, nobody⟩
  · exact .inl rfl

/-- A task that acquires has one request that waits, for an entry that nobody holds. -/
theorem Sound.acquire (sound : l.Sound) (task : Nat) : (l.acquire task).Sound where
  keys := sound.keys
  entries := sound.entries
  lt_next := sound.lt_next
  current := by
    rw [requests_acquire, List.forall_mem_map]
    intro r hr
    rcases l.acquired_cases task hr with same | ⟨now, -⟩
    · rw [same]
      exact sound.current r hr
    · rw [now]
      exact sound.current r hr
  exclusive := by
    rw [requests_acquire, List.pairwise_map]
    refine (sound.exclusive.and sound.waiting).imp_of_mem ?_
    rintro r s hr hs ⟨exclusive, waiting⟩
    rcases l.acquired_cases task hr with same | ⟨now, htask, waits, nobody⟩ <;>
      rcases l.acquired_cases task hs with same' | ⟨now', htask', waits', nobody'⟩
    · rw [same, same']
      exact exclusive
    · rw [same, now']
      rintro held - entry
      rw [nobody' r hr entry] at held
      cases held
    · rw [now, same']
      rintro - held entry
      rw [nobody s hs entry.symm] at held
      cases held
    · -- Both would be of the task that acquires, and a task waits for one entry at most.
      exact absurd (htask.trans htask'.symm) (waiting waits waits')
  waiting := by
    rw [requests_acquire, List.pairwise_map]
    refine sound.waiting.imp_of_mem fun {r s} hr hs waiting => ?_
    rcases l.acquired_cases task hr with same | ⟨now, -⟩
    · rcases l.acquired_cases task hs with same' | ⟨now', -⟩
      · rw [same, same']
        exact waiting
      · rw [now']
        exact fun _ held => absurd held Bool.noConfusion
    · rw [now]
      exact fun held => absurd held Bool.noConfusion

/-- A table with fewer requests is as sound. -/
theorem Sound.of_sublist (sound : l.Sound) {requests : List (LockRequest κ)}
    (fewer : requests.Sublist l.requests) : ({ l with requests } : KeyedLocks κ).Sound :=
  ⟨sound.keys, sound.entries, sound.lt_next, fun r hr => sound.current r (fewer.mem hr),
    sound.exclusive.sublist fewer, sound.waiting.sublist fewer⟩

/-! ## Keys -/

variable [DecidableEq κ]

theorem Sound.entry?_eq_some_iff (sound : l.Sound) {key : κ} {entry : Nat} :
    l.entry? key = some entry ↔ (key, entry) ∈ l.table :=
  Keys.lookup_eq_some_iff sound.keys

/-- A new entry is referred to by nothing yet. -/
theorem Sound.addEntry (sound : l.Sound) {key : κ} (absent : l.entry? key = none) :
    (l.addEntry key).Sound where
  keys := Keys.nodup_concat sound.keys absent l.next
  entries := by
    have fresh : l.next ∉ l.table.map Prod.snd := by
      intro h
      obtain ⟨p, hp, same⟩ := List.mem_map.1 h
      exact Nat.lt_irrefl _ (same ▸ sound.lt_next p hp)
    simpa [KeyedLocks.addEntry] using sound.entries.concat fresh
  lt_next p hp := by
    rcases List.mem_append.1 hp with hp | hp
    · exact Nat.lt_succ_of_lt (sound.lt_next p hp)
    · rw [List.mem_singleton.1 hp]
      exact Nat.lt_succ_self _
  current r hr := List.mem_append_left _ (sound.current r hr)
  exclusive := sound.exclusive
  waiting := sound.waiting

/-- Entries are dropped before the key is looked up, so the one that is found, or made, stays until
the request refers to it. -/
theorem Sound.lookUp (sound : l.Sound) {task : Nat} (idle : ¬ l.Waits task) (key : κ) :
    (l.lookUp task key).Sound := by
  have idle' : ¬ l.prune.Waits task := by
    unfold Waits
    rwa [requests_prune]
  unfold KeyedLocks.lookUp
  split
  · rename_i entry found
    exact sound.prune.await (sound.prune.entry?_eq_some_iff.1 found) idle'
  · rename_i absent
    exact (sound.prune.addEntry absent).await (List.mem_append_right _ List.mem_cons_self) idle'

/-- Ends a request: what it has acquired is released, or it no longer waits. -/
def release (l : KeyedLocks κ) (r : LockRequest κ) : KeyedLocks κ :=
  { l with requests := l.requests.erase r }

/-- What a task does in one step. While it waits it looks nothing up; what it holds it may keep
meanwhile, and release one by one or all at once. -/
inductive Step (l : KeyedLocks κ) : KeyedLocks κ → Prop
  | lookUp (task : Nat) (key : κ) : ¬ l.Waits task → Step l (l.lookUp task key)
  | acquire (task : Nat) : Step l (l.acquire task)
  | release (r : LockRequest κ) : Step l (l.release r)
  | leave (task : Nat) : Step l (l.leave task)

theorem Sound.step {l' : KeyedLocks κ} (sound : l.Sound) (step : l.Step l') : l'.Sound := by
  cases step with
  | lookUp task key idle => exact sound.lookUp idle key
  | acquire task => exact sound.acquire task
  | release r => exact sound.of_sublist List.erase_sublist
  | leave task => exact sound.of_sublist List.filter_sublist

theorem sound_of_steps (steps : Relation.ReflTransGen Step empty l) : l.Sound := by
  induction steps with
  | refl => exact sound_empty
  | tail _ step sound => exact sound.step step

/-- Requests for a key refer to one entry. -/
theorem Sound.entry_eq (sound : l.Sound) {r s : LockRequest κ} (hr : r ∈ l.requests)
    (hs : s ∈ l.requests) (same : r.key = s.key) : r.entry = s.entry := by
  have first := sound.entry?_eq_some_iff.2 (sound.current r hr)
  have second := sound.entry?_eq_some_iff.2 (sound.current s hs)
  rw [same, second] at first
  exact (Option.some.inj first).symm

/-- Of the requests for a key at most one has acquired it. -/
theorem Sound.held_eq (sound : l.Sound) (key : κ) :
    (l.requests.filter fun r => r.held && r.key == key) = []
      ∨ ∃ r, (l.requests.filter fun r => r.held && r.key == key) = [r] := by
  have exclusive := sound.exclusive.filter fun r => r.held && r.key == key
  have mem : ∀ r ∈ l.requests.filter fun r => r.held && r.key == key,
      r ∈ l.requests ∧ r.held = true ∧ r.key = key := by
    intro r hr
    simpa using hr
  match h : l.requests.filter fun r => r.held && r.key == key with
  | [] => exact .inl h
  | [r] => exact .inr ⟨r, h⟩
  | r :: s :: rest =>
    rw [h] at exclusive mem
    obtain ⟨hr, held, rfl⟩ := mem r List.mem_cons_self
    obtain ⟨hs, held', same⟩ := mem s (List.mem_cons_of_mem _ List.mem_cons_self)
    have apart := (List.pairwise_cons.1 exclusive).1 s List.mem_cons_self
    exact absurd (sound.entry_eq hr hs same.symm) (apart held held')

theorem holds_iff {task : Nat} {key : κ} : l.holds task key = true
    ↔ ∃ r ∈ l.requests.filter fun r => r.held && r.key == key, r.task = task := by
  simp only [holds, List.any_eq_true, List.mem_filter, Bool.and_eq_true, beq_iff_eq]
  constructor
  · rintro ⟨r, hr, ⟨task, key⟩, held⟩
    exact ⟨r, ⟨hr, held, key⟩, task⟩
  · rintro ⟨r, ⟨hr, held, key⟩, task⟩
    exact ⟨r, hr, ⟨task, key⟩, held⟩

/-- A look-up leaves all that is not dropped before it. -/
theorem mem_table_lookUp {p : κ × Nat} (hp : p ∈ l.prune.table) (task : Nat) (key : κ) :
    p ∈ (l.lookUp task key).table := by
  unfold lookUp
  split
  · exact hp
  · exact List.mem_append_left _ hp

/-- Only a look-up in a large table takes an entry away, and only one that nothing but the table
refers to; so nobody has asked for its key. -/
theorem Sound.unused_of_step {l' : KeyedLocks κ} (sound : l.Sound) (step : l.Step l')
    {p : κ × Nat} (hp : p ∈ l.table) (gone : p ∉ l'.table) :
    pruneThreshold < l.table.length ∧ l.references p.2 ≤ 1 ∧ ∀ r ∈ l.requests, r.key ≠ p.1 := by
  have pruned : p ∉ l.prune.table := by
    cases step with
    | lookUp task key idle => exact fun stays => gone (mem_table_lookUp stays task key)
    | acquire task => exact absurd hp gone
    | release r => exact absurd hp gone
    | leave task => exact absurd hp gone
  rw [mem_prune_iff, not_and, Classical.not_imp] at pruned
  obtain ⟨large, unused⟩ := pruned hp
  refine ⟨large, Nat.not_lt.1 fun more => unused ((sound.isUsed_iff_references hp).2 more), ?_⟩
  intro r hr same
  have current := sound.entry?_eq_some_iff.2 (sound.current r hr)
  rw [same, sound.entry?_eq_some_iff.2 hp] at current
  exact unused (isUsed_iff.2 ⟨r, hr, (Option.some.inj current).symm⟩)

/-- Whatever tasks do, in whatever order: one request at most has acquired a key, so one task at
most holds it; every request refers to the entry that the table has for its key; and a step takes
away only entries that no request refers to. -/
theorem serialized (steps : Relation.ReflTransGen Step empty l) :
    (∀ key, (l.requests.filter fun r => r.held && r.key == key).length ≤ 1
      ∧ ∀ a b, l.holds a key = true → l.holds b key = true → a = b)
    ∧ (∀ r ∈ l.requests, l.entry? r.key = some r.entry)
    ∧ ∀ l', l.Step l' → ∀ p ∈ l.table, p ∉ l'.table →
      pruneThreshold < l.table.length ∧ l.references p.2 ≤ 1 ∧ ∀ r ∈ l.requests, r.key ≠ p.1 := by
  have sound := sound_of_steps steps
  refine ⟨fun key => ?_, fun r hr => sound.entry?_eq_some_iff.2 (sound.current r hr),
    fun l' step p hp gone => sound.unused_of_step step hp gone⟩
  simp only [holds_iff]
  rcases sound.held_eq key with none_ | ⟨r, one⟩
  · simp [none_]
  · simp [one]

/-- A table of numbers: a task holds the first one, and another one has visited the rest. -/
def crowd (n : Nat) : KeyedLocks Nat :=
  ⟨(List.range (n + 1)).map fun i => (i, i), [⟨0, 0, 0, true⟩], n + 1⟩

theorem lookUp_crowd {n : Nat} (small : n < pruneThreshold) :
    (crowd n).lookUp 1 (n + 1) = (crowd (n + 1)).await 1 (n + 1) (n + 1) := by
  have kept : (crowd n).prune = crowd n := if_neg (by simpa [crowd] using Nat.not_lt.2 small)
  have absent : (crowd n).table.lookup (n + 1) = none := by
    simp [crowd, List.lookup_eq_none_iff]
    omega
  unfold lookUp KeyedLocks.entry?
  rw [kept, absent]
  simp [addEntry, crowd, List.range_succ]

theorem steps_crowd : ∀ {n : Nat}, n ≤ pruneThreshold → Relation.ReflTransGen Step empty (crowd n)
  | 0, _ =>
    have idle : ¬ (empty : KeyedLocks Nat).Waits 0 := by simp [Waits, empty]
    .tail (.single (.lookUp 0 0 idle)) (.acquire 0)
  | n + 1, small => by
    have idle : ¬ (crowd n).Waits 1 := by simp [Waits, crowd]
    have visit : (crowd n).Step ((crowd (n + 1)).await 1 (n + 1) (n + 1)) :=
      lookUp_crowd small ▸ .lookUp 1 (n + 1) idle
    exact ((steps_crowd (Nat.le_of_succ_le small)).tail visit).tail (.leave 1)

theorem serialized_crowd : Relation.ReflTransGen Step empty (crowd pruneThreshold)
    ∧ (crowd pruneThreshold).holds 0 0 = true ∧ KeyedLocks.entry? (crowd pruneThreshold) 0 = some 0
    ∧ ((crowd pruneThreshold).lookUp 1 5000).table = [(0, 0), (5000, 1025)]
    ∧ (crowd pruneThreshold).references 7 ≤ 1 := by
  have steps := steps_crowd (Nat.le_refl pruneThreshold)
  have pruned : ((crowd pruneThreshold).lookUp 1 5000).table = [(0, 0), (5000, 1025)] := by
    decide +kernel
  have idle : ¬ (crowd pruneThreshold).Waits 1 := by simp [Waits, crowd]
  obtain ⟨-, current, kept⟩ := serialized steps
  refine ⟨steps, rfl, current ⟨0, 0, 0, true⟩ List.mem_cons_self, pruned, ?_⟩
  refine (kept _ (.lookUp 1 5000 idle) (7, 7) ?_ ?_).2.1
  · simp [crowd, pruneThreshold]
  · rw [pruned]
    decide

end KeyedLocks

end Dialogue
