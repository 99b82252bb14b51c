import Mathlib.Tactic.SplitIfs
import Dialogue.Text.Utf8

/-!
# Bytes of characters

A text is read from its bytes (`decodeLossy_encode`): the first byte of a character tells how many
there are, and a byte that follows is in the range that the first one leaves to it.
-/

namespace Dialogue

namespace Utf8

variable {a b c d : UInt8} {n : Nat}

theorem toNat_ofNat (h : n < 256) : (UInt8.ofNat n).toNat = n := by
  rw [UInt8.toNat_ofNat', Nat.mod_eq_of_lt h]

/-! ## What a first byte announces -/

theorem width_one (h : a.toNat < 0x80) : width a = 1 := by
  simp [width, UInt8.lt_iff_toNat_lt, h]

theorem width_two (h : 0xC2 ≤ a.toNat ∧ a.toNat ≤ 0xDF) : width a = 2 := by
  simp only [width, UInt8.lt_iff_toNat_lt, UInt8.le_iff_toNat_le, UInt8.reduceToNat]
  rw [if_neg (by omega), if_pos (by simpa using h)]

theorem width_three (h : 0xE0 ≤ a.toNat ∧ a.toNat ≤ 0xEF) : width a = 3 := by
  simp only [width, UInt8.lt_iff_toNat_lt, UInt8.le_iff_toNat_le, UInt8.reduceToNat]
  rw [if_neg (by omega), if_neg (by simp; omega), if_pos (by simpa using h)]

theorem width_four (h : 0xF0 ≤ a.toNat ∧ a.toNat ≤ 0xF4) : width a = 4 := by
  simp only [width, UInt8.lt_iff_toNat_lt, UInt8.le_iff_toNat_le, UInt8.reduceToNat]
  rw [if_neg (by omega), if_neg (by simp; omega), if_neg (by simp; omega),
    if_pos (by simpa using h)]

theorem isTail_of_toNat (h : 0x80 ≤ b.toNat ∧ b.toNat ≤ 0xBF) : isTail b = true := by
  simpa [isTail, UInt8.le_iff_toNat_le] using h

/-- The four first bytes that leave less than all of the range to the second. -/
theorem mayFollow_of_toNat (tail : 0x80 ≤ b.toNat ∧ b.toNat ≤ 0xBF)
    (e0 : a.toNat = 0xE0 → 0xA0 ≤ b.toNat) (ed : a.toNat = 0xED → b.toNat ≤ 0x9F)
    (f0 : a.toNat = 0xF0 → 0x90 ≤ b.toNat) (f4 : a.toNat = 0xF4 → b.toNat ≤ 0x8F) :
    mayFollow a b = true := by
  simp only [mayFollow, isTail, beq_iff_eq, ← UInt8.toNat_inj, UInt8.le_iff_toNat_le,
    UInt8.reduceToNat]
  split_ifs <;> simp <;> omega

/-! ## Characters -/

theorem toNat_scalar (x : Char) :
    x.val.toNat < 0xD800 ∨ 0xDFFF < x.val.toNat ∧ x.val.toNat < 0x110000 := x.valid

theorem next_one (ha : width a = 1) (r : List UInt8) :
    next a r = (some (Char.ofNat a.toNat), r) := by
  unfold next
  simp only [ha]

theorem next_two (ha : width a = 2) (hb : mayFollow a b = true) (r : List UInt8) :
    next a (b :: r) = (some (pair a b), r) := by
  unfold next
  simp only [ha, hb, if_true]

theorem next_three (ha : width a = 3) (hb : mayFollow a b = true) (hc : isTail c = true)
    (r : List UInt8) : next a (b :: c :: r) = (some (triple a b c), r) := by
  unfold next
  simp only [ha, hb, hc, if_true]

theorem next_four (ha : width a = 4) (hb : mayFollow a b = true) (hc : isTail c = true)
    (hd : isTail d = true) (r : List UInt8) :
    next a (b :: c :: d :: r) = (some (quadruple a b c d), r) := by
  unfold next
  simp only [ha, hb, hc, hd, if_true]

/-- The bytes of a character are taken as that character, whatever follows. -/
theorem next_utf8EncodeChar (x : Char) (rest : List UInt8) :
    ∃ a r, String.utf8EncodeChar x = a :: r ∧ next a (r ++ rest) = (some x, rest) := by
  have scalar := toNat_scalar x
  have whole : ∀ m, m = x.val.toNat → Char.ofNat m = x := fun m hm => by
    rw [hm]
    exact Char.ofNat_toNat x
  generalize hv : x.val.toNat = v at scalar whole
  unfold String.utf8EncodeChar
  simp only [hv]
  split_ifs with h₁ h₂ h₃
  · refine ⟨_, _, rfl, ?_⟩
    have ha := toNat_ofNat (n := v) (by omega)
    rw [List.nil_append, next_one (width_one (by omega)), whole _ ha]
  · refine ⟨_, _, rfl, ?_⟩
    have ha := toNat_ofNat (n := v / 64 % 32 + 192) (by omega)
    have hb := toNat_ofNat (n := v % 64 + 128) (by omega)
    rw [List.singleton_append, next_two (width_two (by omega))
      (mayFollow_of_toNat (by omega) (by omega) (by omega) (by omega) (by omega)),
      pair, ha, hb, whole _ (by omega)]
  · refine ⟨_, _, rfl, ?_⟩
    have ha := toNat_ofNat (n := v / 4096 % 16 + 224) (by omega)
    have hb := toNat_ofNat (n := v / 64 % 64 + 128) (by omega)
    have hc := toNat_ofNat (n := v % 64 + 128) (by omega)
    rw [List.cons_append, List.singleton_append, next_three (width_three (by omega))
      (mayFollow_of_toNat (by omega) (by omega) (by omega) (by omega) (by omega))
      (isTail_of_toNat (by omega)), triple, ha, hb, hc, whole _ (by omega)]
  · refine ⟨_, _, rfl, ?_⟩
    have ha := toNat_ofNat (n := v / 262144 % 8 + 240) (by omega)
    have hb := toNat_ofNat (n := v / 4096 % 64 + 128) (by omega)
    have hc := toNat_ofNat (n := v / 64 % 64 + 128) (by omega)
    have hd := toNat_ofNat (n := v % 64 + 128) (by omega)
    rw [List.cons_append, List.cons_append, List.singleton_append,
      next_four (width_four (by omega))
      (mayFollow_of_toNat (by omega) (by omega) (by omega) (by omega) (by omega))
      (isTail_of_toNat (by omega)) (isTail_of_toNat (by omega)), quadruple, ha, hb, hc, hd,
      whole _ (by omega)]

theorem decodeLossy_encode (s : List Char) : decodeLossy (encode s) = s := by
  induction s with
  | nil => simp [encode, decodeLossy]
  | cons x s ih =>
    obtain ⟨a, r, bytes, first⟩ := next_utf8EncodeChar x (encode s)
    have front : encode (x :: s) = a :: (r ++ encode s) := by
      rw [encode, List.flatMap_cons, bytes]
      rfl
    rw [front, decodeLossy, first, ih, Option.getD_some]

/-- A character of ASCII is one byte. -/
theorem utf8EncodeChar_of_lt {x : Char} (h : x.toNat < 0x80) :
    String.utf8EncodeChar x = [UInt8.ofNat x.toNat] := by
  unfold String.utf8EncodeChar
  exact if_pos (Nat.le_of_lt_succ h)

end Utf8

end Dialogue
