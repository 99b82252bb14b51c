import Mathlib.Algebra.Group.Nat.Defs
import Dialogue.Calendar.Reader

/-!
# Digits are read back

A whole number that was written in digits, filled with zeros or with a sign, is read back as it was
(`digitsNumber_paddedChars`, `readIntegerChars_intChars`). Digits are no marks, signs or blanks, so
they can be told from what stands around them.
-/

namespace Dialogue

namespace Text

/-- The text consists of digits. -/
def IsDigits (s : List Char) : Prop := ∀ c ∈ s, c.isDigit = true

theorem isDigits_natChars (n : Nat) : IsDigits (natChars n) :=
  fun _ h => Nat.isDigit_of_mem_toDigits (by decide) (by decide) h

theorem natChars_ne_nil (n : Nat) : natChars n ≠ [] := Nat.toDigits_ne_nil

theorem IsDigits.append {s r : List Char} (hs : IsDigits s) (hr : IsDigits r) :
    IsDigits (s ++ r) := by
  intro c hc
  rcases List.mem_append.1 hc with hc | hc
  · exact hs c hc
  · exact hr c hc

theorem isDigits_paddedChars (width n : Nat) : IsDigits (paddedChars width n) := by
  refine IsDigits.append (fun c hc => ?_) (isDigits_natChars n)
  rw [(List.mem_replicate.1 hc).2]
  rfl

theorem IsDigits.not_mem {s : List Char} (hs : IsDigits s) {c : Char} (hc : c.isDigit = false) :
    c ∉ s := by
  intro h
  rw [hs c h] at hc
  cases hc

/-- A text of digits, and of anything after them, does not start with another character. -/
theorem IsDigits.append_ne_cons {s : List Char} (hs : IsDigits s) (hne : s ≠ []) {c : Char}
    (hc : c.isDigit = false) (r t : List Char) : s ++ r ≠ c :: t := by
  cases s with
  | nil => exact absurd rfl hne
  | cons d s =>
    intro h
    obtain ⟨rfl, -⟩ := List.cons.inj h
    rw [hs d List.mem_cons_self] at hc
    cases hc

theorem not_isBlank_of_isDigit {c : Char} (h : c.isDigit = true) : isBlank c = false := by
  simp only [Char.isDigit, Bool.and_eq_true, decide_eq_true_eq, ge_iff_le] at h
  have h₁ : 48 ≤ c.toNat := UInt32.le_iff_toNat_le.1 h.1
  have h₂ : c.toNat ≤ 57 := UInt32.le_iff_toNat_le.1 h.2
  unfold isBlank
  simp
  omega

/-- Where digits stand, no blanks are skipped. -/
theorem trimStartChars_append {s : List Char} (hs : IsDigits s) (hne : s ≠ []) (r : List Char) :
    trimStartChars (s ++ r) = s ++ r := by
  cases s with
  | nil => exact absurd rfl hne
  | cons c s =>
    exact List.dropWhile_cons_of_neg (by rw [not_isBlank_of_isDigit (hs c (by simp))]; simp)

theorem paddedChars_ne_nil (width n : Nat) : paddedChars width n ≠ [] := by
  unfold paddedChars
  exact List.append_ne_nil_of_right_ne_nil _ (natChars_ne_nil n)

/-- A number that fits the width is filled up to it. -/
theorem length_paddedChars {width n : Nat} (hw : 0 < width) (h : n < 10 ^ width) :
    (paddedChars width n).length = width := by
  unfold paddedChars natChars
  have := (Nat.length_toDigits_le_iff (by decide) hw).2 h
  rw [List.length_append, List.length_replicate]
  omega

/-- Digits are split from what follows a mark. -/
theorem splitAt?_append {c : Char} : ∀ {s : List Char}, c ∉ s → ∀ r : List Char,
    splitAt? c (s ++ c :: r) = some (s, r)
  | [], _, r => by
    rw [List.nil_append, splitAt?, if_pos rfl]
  | d :: s, h, r => by
    rw [List.mem_cons, not_or] at h
    rw [List.cons_append, splitAt?, if_neg (Ne.symm h.1), splitAt?_append h.2 r]
    rfl

end Text

namespace Calendar

open Text

theorem digitsNumber_eq (s : List Char) : digitsNumber s = Nat.ofDigitChars 10 s 0 := by
  unfold digitsNumber
  rw [Nat.ofDigitChars_eq_foldl]
  congr 1
  funext n c
  rw [Nat.mul_comm]
  rfl

theorem digitsNumber_paddedChars (width n : Nat) : digitsNumber (paddedChars width n) = n := by
  rw [digitsNumber_eq]
  unfold paddedChars natChars
  rw [Nat.ofDigitChars_append, Nat.ofDigitChars_replicate_zero, Nat.mul_zero,
    Nat.ofDigitChars_ten_toDigits]

end Calendar

namespace Text

theorem paddedChars_injective (width : Nat) {m n : Nat}
    (h : paddedChars width m = paddedChars width n) : m = n := by
  rw [← Calendar.digitsNumber_paddedChars width m, h, Calendar.digitsNumber_paddedChars]

theorem le_ofDigitChars (s : List Char) (n : Nat) : n ≤ Nat.ofDigitChars 10 s n := by
  rw [Nat.ofDigitChars_eq_ofDigitChars_zero]
  refine Nat.le_trans ?_ (Nat.le_add_right _ _)
  exact Nat.le_mul_of_pos_left n (Nat.pow_pos (by decide))

theorem digit?_of_isDigit {c : Char} (h : c.isDigit = true) :
    digit? c = some (c.toNat - '0'.toNat) := if_pos h

theorem readDigits_cons {r : Range} {c : Char} (hc : c.isDigit = true) (n : Nat)
    (s : List Char) : readDigits r false n (c :: s)
    = if r.greatest < (10 * n + (c.toNat - '0'.toNat) : Nat) then .error .tooLarge
      else readDigits r false (10 * n + (c.toNat - '0'.toNat) : Nat) s := by
  have step : ((n : Int) * 10 + ((c.toNat - '0'.toNat : Nat) : Int))
      = ((10 * n + (c.toNat - '0'.toNat) : Nat) : Int) := by
    omega
  rw [readDigits]
  simp only [digit?_of_isDigit hc]
  rw [step, if_neg (by simp)]

/-- Digits are read as long as the number they write is in the range. -/
theorem readDigits_eq {r : Range} : ∀ {s : List Char} (n : Nat), IsDigits s →
    (Nat.ofDigitChars 10 s n : Int) ≤ r.greatest →
    readDigits r false n s = .ok (Nat.ofDigitChars 10 s n)
  | [], n, _, _ => rfl
  | c :: s, n, hs, h => by
    rw [Nat.ofDigitChars_cons] at h ⊢
    have le := le_ofDigitChars s (10 * n + (c.toNat - '0'.toNat))
    rw [readDigits_cons (hs c List.mem_cons_self), if_neg (by omega)]
    exact readDigits_eq _ (fun d hd => hs d (by simp [hd])) h

/-- What is read from digits is the number they write. -/
theorem eq_of_readDigits {r : Range} {m : Int} : ∀ {s : List Char} {n : Nat}, IsDigits s →
    readDigits r false n s = .ok m → m = Nat.ofDigitChars 10 s n
  | [], n, _, h => by
    cases h
    rfl
  | c :: s, n, hs, h => by
    rw [readDigits_cons (hs c List.mem_cons_self)] at h
    split at h
    · cases h
    · rw [Nat.ofDigitChars_cons]
      exact eq_of_readDigits (fun d hd => hs d (by simp [hd])) h

/-- The digits of a negative number are read as long as it is in the range. -/
theorem readDigits_neg_eq {r : Range} : ∀ {s : List Char} (n : Nat), IsDigits s →
    r.least ≤ -(Nat.ofDigitChars 10 s n : Int) →
    readDigits r true (-n) s = .ok (-(Nat.ofDigitChars 10 s n : Int))
  | [], n, _, _ => rfl
  | c :: s, n, hs, h => by
    rw [Nat.ofDigitChars_cons] at h ⊢
    have step : (-(n : Int) * 10 - ((c.toNat - '0'.toNat : Nat) : Int))
        = -((10 * n + (c.toNat - '0'.toNat) : Nat) : Int) := by
      omega
    have le := le_ofDigitChars s (10 * n + (c.toNat - '0'.toNat))
    unfold readDigits
    simp only [digit?_of_isDigit (hs c List.mem_cons_self)]
    rw [step, if_pos trivial, if_neg (by omega)]
    exact readDigits_neg_eq _ (fun d hd => hs d (by simp [hd])) h

theorem Range.has_iff {r : Range} {n : Int} :
    r.has n = true ↔ r.least ≤ n ∧ n ≤ r.greatest := by
  simp only [Range.has, Bool.and_eq_true, decide_eq_true_eq]

theorem readIntegerChars_digits {r : Range} {s : List Char} (hs : IsDigits s) (hne : s ≠ []) :
    readIntegerChars r s = readDigits r false 0 s := by
  unfold readIntegerChars
  split
  · exact absurd rfl hne
  all_goals first | rfl | exact absurd (hs _ List.mem_cons_self) (by decide)

theorem eq_of_readIntegerChars {r : Range} {n : Nat} {m : Int}
    (h : readIntegerChars r (natChars n) = .ok m) : m = n := by
  rw [readIntegerChars_digits (isDigits_natChars n) (natChars_ne_nil n)] at h
  rw [eq_of_readDigits (isDigits_natChars n) h]
  exact congrArg Nat.cast Nat.ofDigitChars_ten_toDigits

theorem readIntegerChars_minus {r : Range} (hr : r.least < 0) {s : List Char} (hne : s ≠ []) :
    readIntegerChars r ('-' :: s) = readDigits r true 0 s := by
  cases s with
  | nil => exact absurd rfl hne
  | cons c s =>
    show (if r.least < 0 then readDigits r true 0 (c :: s) else _) = _
    rw [if_pos hr]

theorem readIntegerChars_natChars {r : Range} {n : Nat} (h : n ≤ r.greatest) :
    readIntegerChars r (natChars n) = .ok n := by
  have value : Nat.ofDigitChars 10 (natChars n) 0 = n := Nat.ofDigitChars_ten_toDigits
  have read := readDigits_eq (r := r) 0 (isDigits_natChars n) (by rw [value]; exact h)
  rw [value] at read
  exact (readIntegerChars_digits (isDigits_natChars n) (natChars_ne_nil n)).trans read

/-- A number of the range is read back. -/
theorem readIntegerChars_intChars {r : Range} (hr : r.least < 0) {n : Int}
    (h : r.has n = true) : readIntegerChars r (intChars n) = .ok n := by
  rw [Range.has_iff] at h
  cases n with
  | ofNat n => exact readIntegerChars_natChars h.2
  | negSucc n =>
    have value : Nat.ofDigitChars 10 (natChars (n + 1)) 0 = n + 1 := Nat.ofDigitChars_ten_toDigits
    have read := readDigits_neg_eq (r := r) 0 (isDigits_natChars (n + 1))
      (by rw [value]; exact h.1)
    rw [value] at read
    exact (readIntegerChars_minus hr (natChars_ne_nil _)).trans read

theorem not_mem_intChars {c : Char} (hc : c.isDigit = false) (hminus : c ≠ '-') (n : Int) :
    c ∉ intChars n := by
  cases n with
  | ofNat n => exact (isDigits_natChars n).not_mem hc
  | negSucc n =>
    intro h
    rcases List.mem_cons.1 h with h | h
    · exact hminus h
    · exact (isDigits_natChars (n + 1)).not_mem hc h

end Text

end Dialogue
