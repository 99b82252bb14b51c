import Dialogue.Ident.Typed
import Mathlib.Data.String.Basic

/-!
# Identifiers are read back

The digits of an identifier are one byte each and write its number, whatever the case of the
letters, so an identifier that was written is read back as it was (`Ulid.parse_of_toUpper`), with
the mark of its kind in front or without.
-/

namespace Dialogue

namespace Ulid

variable {c : Char} {s : List Char}

theorem toUpper_digit {n : Nat} (h : n < 32) : (digit n).toUpper = digit n := by
  revert n
  decide

theorem utf8Size_digit {n : Nat} (h : n < 32) : (digit n).utf8Size = 1 := by
  revert n
  decide

theorem findIdx?_digit {n : Nat} (h : n < 32) : alphabet.findIdx? (· == digit n) = some n := by
  revert n
  decide

theorem digitValue?_of_toUpper {n : Nat} (h : n < 32) (hc : c.toUpper = digit n) :
    digitValue? c = some n := by
  rw [digitValue?, hc, findIdx?_digit h]

theorem utf8Size_of_toUpper {n : Nat} (h : n < 32) (hc : c.toUpper = digit n) :
    c.utf8Size = 1 := by
  unfold Char.toUpper at hc
  split at hc
  · rename_i small
    exact if_pos (UInt32.le_trans small.2 (by decide))
  · rw [hc, utf8Size_digit h]

theorem map_toUpper_digitsOf : ∀ count n : Nat,
    (digitsOf count n).map Char.toUpper = digitsOf count n
  | 0, _ => rfl
  | count + 1, n => by
    rw [digitsOf, List.map_append, map_toUpper_digitsOf count, List.map_singleton,
      toUpper_digit (Nat.mod_lt n (by decide))]

/-- Digits without the last one, and the last one, in either case. -/
theorem exists_last_digit {count n : Nat} (hs : s.map Char.toUpper = digitsOf (count + 1) n) :
    ∃ r c, s = r ++ [c] ∧ r.map Char.toUpper = digitsOf count (n / 32)
      ∧ c.toUpper = digit (n % 32) := by
  obtain ⟨r, last, rfl, hr, hlast⟩ := List.map_eq_append_iff.1 hs
  obtain ⟨c, rfl, hc⟩ := List.map_eq_singleton_iff.1 hlast
  exact ⟨r, c, rfl, hr, hc⟩

/-- Digits write the number they were made of, up to their count. -/
theorem value?_of_toUpper : ∀ (count n : Nat) {s : List Char},
    s.map Char.toUpper = digitsOf count n → value? s = some (n % 32 ^ count)
  | 0, n, s, hs => by
    rw [List.map_eq_nil_iff.1 hs, Nat.pow_zero, Nat.mod_one]
    rfl
  | count + 1, n, s, hs => by
    obtain ⟨r, c, rfl, hr, hc⟩ := exists_last_digit hs
    have front : r.foldlM _ 0 = some (n / 32 % 32 ^ count) := value?_of_toUpper count (n / 32) hr
    have last := digitValue?_of_toUpper (Nat.mod_lt n (by decide)) hc
    have whole : n / 32 % 32 ^ count * 32 + n % 32 = n % 32 ^ (count + 1) := by
      rw [Nat.pow_succ', Nat.mod_mul]
      omega
    unfold value?
    rw [List.foldlM_append, front]
    simp [last, whole]

theorem utf8Len_of_toUpper : ∀ (count n : Nat) {s : List Char},
    s.map Char.toUpper = digitsOf count n → String.utf8Len s = count
  | 0, _, s, hs => by
    rw [List.map_eq_nil_iff.1 hs]
    rfl
  | count + 1, n, s, hs => by
    obtain ⟨r, c, rfl, hr, hc⟩ := exists_last_digit hs
    have last := utf8Size_of_toUpper (Nat.mod_lt n (by decide)) hc
    rw [String.utf8Len_append, utf8Len_of_toUpper count _ hr]
    simp [last]

/-- An identifier is read from its digits in either letter case. -/
theorem parse_of_toUpper {u : Ulid} (hs : s.map Char.toUpper = u.chars) :
    parse (String.ofList s) = .ok u := by
  have size : (String.ofList s).utf8ByteSize = width :=
    (String.utf8ByteSize_ofList s).trans (utf8Len_of_toUpper width _ hs)
  have all : u.bits.toNat % 32 ^ width = u.bits.toNat :=
    Nat.mod_eq_of_lt (Nat.lt_trans u.bits.isLt (by decide))
  unfold parse
  rw [if_neg (not_not_intro size), String.toList_ofList, value?_of_toUpper width _ hs, all]
  simp

theorem map_toUpper_chars (u : Ulid) : u.chars.map Char.toUpper = u.chars :=
  map_toUpper_digitsOf width _

theorem parse_text (u : Ulid) : parse u.text = .ok u := parse_of_toUpper u.map_toUpper_chars

end Ulid

namespace Id

variable {kind : IdKind}

theorem toList_text (id : Id kind) : id.text.toList = lead kind ++ id.ulid.chars := by
  simp [text, lead, Ulid.text]

/-- An identifier is read with the mark of its kind and digits in either letter case. -/
theorem parse_lead_append {id : Id kind} {s : List Char}
    (hs : s.map Char.toUpper = id.ulid.chars) :
    parse kind (String.ofList (lead kind ++ s)) = .ok id := by
  unfold parse
  rw [String.toList_ofList, Text.afterLead?_append]
  simp [Ulid.parse_of_toUpper hs]

theorem parse_text (id : Id kind) : parse kind id.text = .ok id := by
  rw [← String.ofList_toList (s := id.text), toList_text]
  exact parse_lead_append id.ulid.map_toUpper_chars

end Id

end Dialogue
