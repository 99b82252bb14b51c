import Dialogue.Proofs.Ident.Written
import Dialogue.Proofs.Text.Utf8

/-!
# Identifiers and their texts

The digits of an identifier are in the order of their bytes, and there are always as many, so texts
of one kind are in the order of the identifiers (`compare_encode_digitsOf`). A text is read back
with or without its mark and in either letter case, and under no other kind's mark
(`text_determines`).
-/

namespace Dialogue

/-! ## The order of bytes -/

section Compare

variable {α : Type} [Ord α]

theorem compare_append_left [Std.ReflOrd α] (a b c : List α) :
    compare (a ++ b) (a ++ c) = compare b c := by
  induction a with
  | nil => rfl
  | cons x a ih =>
    have self : compare x x = .eq := Std.ReflCmp.compare_self
    rw [List.cons_append, List.cons_append, List.compare_cons_cons, self, Ordering.eq_then, ih]

/-- Of texts whose fronts are equally long the fronts are compared first. -/
theorem compare_append : ∀ {a b : List α}, a.length = b.length → ∀ c d : List α,
    compare (a ++ c) (b ++ d) = (compare a b).then (compare c d)
  | [], [], _, c, d => rfl
  | x :: a, y :: b, same, c, d => by
    rw [List.cons_append, List.cons_append, List.compare_cons_cons, List.compare_cons_cons,
      compare_append (Nat.succ.inj same), Ordering.then_assoc]

end Compare

/-- Numbers are compared by their higher parts, and where these are the same by the last digit. -/
theorem compare_digits {base a b : Nat} (ha : a < base) (hb : b < base) (m n : Nat) :
    compare (m * base + a) (n * base + b) = (compare m n).then (compare a b) := by
  rcases Nat.lt_trichotomy m n with less | rfl | more
  · have higher : (m + 1) * base ≤ n * base := Nat.mul_le_mul_right base less
    rw [Nat.succ_mul] at higher
    rw [Nat.compare_eq_lt.2 less, Nat.compare_eq_lt.2 (by omega)]
    rfl
  · rw [Nat.compare_eq_eq.2 rfl, Ordering.eq_then]
    simp only [Nat.compare_eq_ite_lt, Nat.add_lt_add_iff_left]
  · have higher : (n + 1) * base ≤ m * base := Nat.mul_le_mul_right base more
    rw [Nat.succ_mul] at higher
    rw [Nat.compare_eq_gt.2 more, Nat.compare_eq_gt.2 (by omega)]
    rfl

namespace Ulid

theorem compare_digit {m n : Nat} (hm : m < 32) (hn : n < 32) :
    compare (String.utf8EncodeChar (digit m)) (String.utf8EncodeChar (digit n)) = compare m n := by
  have all : ∀ m < 32, ∀ n < 32, compare (String.utf8EncodeChar (digit m))
      (String.utf8EncodeChar (digit n)) = compare m n := by decide +kernel
  exact all m hm n hn

theorem encode_digitsOf_succ (count n : Nat) : Utf8.encode (digitsOf (count + 1) n)
    = Utf8.encode (digitsOf count (n / 32)) ++ String.utf8EncodeChar (digit (n % 32)) := by
  simp [Utf8.encode, digitsOf]

theorem length_encode_digitsOf : ∀ count n : Nat, (Utf8.encode (digitsOf count n)).length = count
  | 0, _ => rfl
  | count + 1, n => by
    rw [encode_digitsOf_succ, List.length_append, length_encode_digitsOf count,
      String.length_utf8EncodeChar, utf8Size_digit (Nat.mod_lt n (by decide))]

/-- The bytes of equally many digits are in the order of the numbers that these write. -/
theorem compare_encode_digitsOf : ∀ count m n : Nat,
    compare (Utf8.encode (digitsOf count m)) (Utf8.encode (digitsOf count n))
      = compare (m % 32 ^ count) (n % 32 ^ count)
  | 0, m, n => by
    rw [Nat.pow_zero, Nat.mod_one, Nat.mod_one]
    rfl
  | count + 1, m, n => by
    have split (k : Nat) : k % 32 ^ (count + 1) = k / 32 % 32 ^ count * 32 + k % 32 := by
      rw [Nat.pow_succ', Nat.mod_mul]
      omega
    have last (k : Nat) : k % 32 < 32 := Nat.mod_lt k (by decide)
    have same : (Utf8.encode (digitsOf count (m / 32))).length
        = (Utf8.encode (digitsOf count (n / 32))).length := by
      rw [length_encode_digitsOf, length_encode_digitsOf]
    rw [encode_digitsOf_succ, encode_digitsOf_succ, compare_append same,
      compare_encode_digitsOf count, compare_digit (last m) (last n), split m, split n,
      compare_digits (last m) (last n)]

end Ulid

namespace Id

open Ulid

variable {kind : IdKind}

theorem compare_encodeText (x y : Id kind) :
    compare (Utf8.encodeText x.text) (Utf8.encodeText y.text) = x.order y := by
  have whole (u : Ulid) : u.bits.toNat % 32 ^ width = u.bits.toNat :=
    Nat.mod_eq_of_lt (Nat.lt_trans u.bits.isLt (by decide))
  unfold Utf8.encodeText
  rw [toList_text, toList_text]
  unfold Utf8.encode
  rw [List.flatMap_append, List.flatMap_append, compare_append_left]
  refine (compare_encode_digitsOf width _ _).trans ?_
  rw [whole, whole]
  rfl

end Id

/-! ## Texts that are read -/

theorem Ulid.underscore_not_mem_digitsOf : ∀ count n : Nat, '_' ∉ digitsOf count n
  | 0, _ => List.not_mem_nil
  | count + 1, n => by
    have other : ∀ k < 32, '_' ≠ digit k := by decide
    rw [digitsOf, List.mem_append, List.mem_singleton, not_or]
    exact ⟨underscore_not_mem_digitsOf count _, other _ (Nat.mod_lt n (by decide))⟩

namespace Id

open Ulid

variable {kind : IdKind}

/-- Digits have no underscore in front, so no mark is dropped from them. -/
theorem parse_bare {id : Id kind} {s : List Char} (hs : s.map Char.toUpper = id.ulid.chars) :
    parse kind (String.ofList s) = .ok id := by
  have bare : Text.afterLead? (lead kind) s = none := by
    refine Option.eq_none_iff_forall_ne_some.2 fun r marked => ?_
    have mark : '_' ∈ s := by
      rw [Text.eq_append_of_afterLead? marked, lead]
      simp
    have capital : '_' ∈ s.map Char.toUpper := List.mem_map.2 ⟨'_', mark, rfl⟩
    rw [hs] at capital
    exact underscore_not_mem_digitsOf width _ capital
  unfold parse
  rw [String.toList_ofList, bare]
  simp [parse_of_toUpper hs]

/-- No mark is the beginning of another one. -/
theorem afterLead?_of_ne {other : IdKind} (ne : other ≠ kind) (s : List Char) :
    Text.afterLead? (lead other) (lead kind ++ s) = none := by
  cases other <;> cases kind <;> simp [lead, IdKind.mark, Text.afterLead?] at ne ⊢

/-- With the mark of another kind in front a text is too long. -/
theorem parse_of_ne (id : Id kind) {other : IdKind} (ne : other ≠ kind) :
    parse other id.text = .error ⟨other, .length⟩ := by
  have digits : id.ulid.text.utf8ByteSize = width :=
    (String.utf8ByteSize_ofList _).trans (utf8Len_of_toUpper width _ id.ulid.map_toUpper_chars)
  have size : id.text.utf8ByteSize ≠ width := by
    rw [text, String.utf8ByteSize_append, String.utf8ByteSize_append, digits,
      show "_".utf8ByteSize = 1 from rfl]
    omega
  unfold parse
  rw [toList_text, afterLead?_of_ne ne]
  simp [Ulid.parse, size]

/-- The text of an identifier, its digits alone, and both in any letter case are read as it; under
another kind they are refused for their length. The form in documents is read as it too. The bytes
of texts are in the order of the identifiers. -/
theorem text_determines (x y : Id kind) :
    (parse kind x.text = .ok x ∧ parse kind x.ulid.text = .ok x)
    ∧ (∀ s : List Char, s.map Char.toUpper = x.ulid.chars →
      parse kind (String.ofList (lead kind ++ s)) = .ok x ∧ parse kind (String.ofList s) = .ok x)
    ∧ (∀ other, other ≠ kind → parse other x.text = .error ⟨other, .length⟩)
    ∧ ofJson? kind x.toJson = some x
    ∧ compare (Utf8.encodeText x.text) (Utf8.encodeText y.text) = x.order y := by
  refine ⟨⟨parse_text x, parse_bare x.ulid.map_toUpper_chars⟩,
    fun s hs => ⟨parse_lead_append hs, parse_bare hs⟩, fun other ne => parse_of_ne x ne, ?_,
    compare_encodeText x y⟩
  show (Ulid.parse x.ulid.text).toOption.map Id.mk = some x
  rw [Ulid.parse_text]
  rfl

/-- An account of the end of 2023, and its digits in letters of both cases. -/
def sample : AccountId := ⟨⟨0x018BCFE568000123456789ABCDEF0123⟩⟩

def mixedDigits : List Char := "01hf7yAT0004hmaSW9NF6yy093".toList

theorem text_determines_sample : mixedDigits.map Char.toUpper = sample.ulid.chars
    ∧ parse .account (String.ofList ("acct_".toList ++ mixedDigits)) = .ok sample
    ∧ parse .account (String.ofList mixedDigits) = .ok sample
    ∧ parse .workflow sample.text = .error ⟨.workflow, .length⟩
    ∧ compare (Utf8.encodeText sample.text) (Utf8.encodeText (⟨⟨-1⟩⟩ : AccountId).text) = .lt := by
  have digits : mixedDigits.map Char.toUpper = sample.ulid.chars := by decide
  obtain ⟨-, read, foreign, -, order⟩ := text_determines sample ⟨⟨-1⟩⟩
  exact ⟨digits, (read _ digits).1, (read _ digits).2, foreign _ (by decide), order⟩

end Id

end Dialogue
