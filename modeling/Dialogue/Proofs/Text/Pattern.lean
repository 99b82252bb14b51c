import Dialogue.Text.Blank

/-!
# Patterns

What a backtracking matcher does with a pattern of characters. At the front of a text a pattern
matches in some ways, in an order of preference: `most` would rather take more characters, `fewest`
would rather take fewer and takes at least one, and of two patterns in a row the first one's
preference goes before the second one's (`first?_seq`). Only the preferred way counts, at the first
place where there is one (`search?`), and the next match is looked for behind it (`Replaced`).
-/

namespace Dialogue

namespace Text

/-- What a pattern takes from the front of a text, what its group keeps of that, and what is
left. -/
structure Match where
  text : List Char
  group : Option (List Char)
  rest : List Char

namespace Match

/-- Takes one more character in front. -/
def cons (c : Char) (m : Match) : Match := { m with text := c :: m.text }

/-- One match and another behind it. -/
def append (x y : Match) : Match := ⟨x.text ++ y.text, y.group.or x.group, y.rest⟩

end Match

/-- Patterns over classes of characters. -/
inductive Pattern where
  | one (p : Char → Bool)
  | most (p : Char → Bool)
  | fewest (p : Char → Bool)
  | seq (a b : Pattern)
  | group (a : Pattern)

namespace Pattern

variable {p : Char → Bool} {c : Char} {s : List Char}

/-- The ways to take characters of a class, also none, those that take more first. -/
def mostWays (p : Char → Bool) : List Char → List Match
  | [] => [⟨[], none, []⟩]
  | c :: r => (if p c then (mostWays p r).map (Match.cons c) else []) ++ [⟨[], none, c :: r⟩]

/-- The ways to take at least one character of a class, those that take fewer first. -/
def fewestWays (p : Char → Bool) : List Char → List Match
  | [] => []
  | c :: r => if p c then ⟨[c], none, r⟩ :: (fewestWays p r).map (Match.cons c) else []

/-- The ways in which a pattern matches at the front of a text, the preferred ones first. -/
def ways : Pattern → List Char → List Match
  | one _, [] => []
  | one p, c :: r => if p c then [⟨[c], none, r⟩] else []
  | most p, s => mostWays p s
  | fewest p, s => fewestWays p s
  | seq a b, s => (a.ways s).flatMap fun x => (b.ways x.rest).map x.append
  | group a, s => (a.ways s).map fun x => { x with group := some x.text }

/-- The way that counts. -/
def first? (a : Pattern) (s : List Char) : Option Match := (a.ways s).head?

/-- The first place where a pattern matches: what stands in front of it, and the match. -/
def search? (a : Pattern) : List Char → Option (List Char × Match)
  | [] => (a.first? []).map fun m => ([], m)
  | c :: r =>
    match a.first? (c :: r) with
    | some m => some ([], m)
    | none => (a.search? r).map fun x => (c :: x.1, x.2)

/-- A text with every match replaced; each is looked for behind the one before. -/
inductive Replaced (a : Pattern) (f : Match → List Char) : List Char → List Char → Prop
  | rest {s : List Char} : a.search? s = none → Replaced a f s s
  | next {s before out : List Char} {m : Match} : a.search? s = some (before, m) →
    Replaced a f m.rest out → Replaced a f s (before ++ f m ++ out)

/-! ## The way that counts -/

variable (b : Pattern)

theorem first?_seq (a : Pattern) (s : List Char) : (seq a b).first? s
    = (a.ways s).findSome? fun x => (b.first? x.rest).map x.append := by
  simp only [first?, ways, List.head?_flatMap, List.head?_map]

theorem first?_one_seq_cons (hc : p c = true) (r : List Char) :
    (seq (one p) b).first? (c :: r) = (b.first? r).map (Match.append ⟨[c], none, r⟩) := by
  simp [first?_seq, ways, hc]

theorem first?_one_seq_of_head (h : ∀ c, s.head? = some c → p c = false) :
    (seq (one p) b).first? s = none := by
  cases s with
  | nil => rfl
  | cons c r => simp [first?_seq, ways, h c rfl]

theorem findSome?_map_cons (c : Char) (l : List Match) :
    (l.map (Match.cons c)).findSome? (fun x => (b.first? x.rest).map x.append)
      = (l.findSome? fun x => (b.first? x.rest).map x.append).map (Match.cons c) := by
  rw [List.findSome?_map, List.map_findSome?]
  congr 1
  funext x
  exact (Option.map_map (Match.cons c) x.append _).symm

/-- Where one more character can be taken, that is tried before none is. -/
theorem first?_most_seq_cons (hc : p c = true) (r : List Char) :
    (seq (most p) b).first? (c :: r) = (((seq (most p) b).first? r).map (Match.cons c)).or
      ((b.first? (c :: r)).map (Match.append ⟨[], none, c :: r⟩)) := by
  simp only [first?_seq, ways, mostWays, hc, if_true, List.findSome?_append, findSome?_map_cons,
    List.findSome?_singleton]

theorem first?_most_seq_of_head (h : ∀ c, s.head? = some c → p c = false) :
    (seq (most p) b).first? s = (b.first? s).map (Match.append ⟨[], none, s⟩) := by
  cases s with
  | nil => simp only [first?_seq, ways, mostWays, List.findSome?_singleton]
  | cons c r => simp [first?_seq, ways, mostWays, h c rfl]

/-- What the group keeps if its pattern takes what a match does. -/
theorem first?_group_seq (a : Pattern) (s : List Char) : (seq (group a) b).first? s
    = (a.ways s).findSome? fun x =>
        (b.first? x.rest).map (Match.append { x with group := some x.text }) := by
  simp only [first?_seq, ways, List.findSome?_map]
  rfl

/-- A group that would rather take fewer takes one more only where it must. -/
theorem findSome?_fewestWays_cons {α : Type} (hc : p c = true) (r : List Char)
    (f : Match → Option α) : (fewestWays p (c :: r)).findSome? f
      = (f ⟨[c], none, r⟩).or ((fewestWays p r).findSome? (f ∘ Match.cons c)) := by
  rw [fewestWays, if_pos hc, List.findSome?_cons, List.findSome?_map]
  cases f ⟨[c], none, r⟩ <;> rfl

end Pattern

end Text

end Dialogue
