import Mathlib.Tactic.SplitIfs
import Dialogue.Proofs.Text.Digits
import Dialogue.Proofs.Text.Trimming
import Dialogue.Proofs.Text.Utf8
import Dialogue.Url.Form

/-!
# Form encoding, undone

A name or a value is read as it was written, whatever characters it has (`decode_encode`): what
stands for itself is no percent sign, no plus and no mark of the line, and a byte that is written in
hexadecimal digits is read from them. So pairs that are written behind a line are read behind what
the line held before (`read_append`), however that ended.
-/

namespace Dialogue

namespace Percent

variable {b : UInt8}

theorem toNat_digit_lt : ∀ n, n < 16 → (digit n).toNat < 0x80 := by decide

theorem digitValue?_digit :
    ∀ n, n < 16 → digitValue? (UInt8.ofNat (digit n).toNat) = some n := by decide

/-- A character of an encoded byte: a percent sign or a digit. -/
theorem exists_digit_of_mem {c : Char} (h : c ∈ encodeByte b) :
    c = '%' ∨ ∃ n < 16, c = digit n := by
  have hb := b.toNat_lt
  simp only [encodeByte, List.mem_cons, List.not_mem_nil, or_false] at h
  rcases h with rfl | rfl | rfl
  · exact .inl rfl
  · exact .inr ⟨_, by omega, rfl⟩
  · exact .inr ⟨_, by omega, rfl⟩

theorem decode_cons_of_ne (h : b ≠ 37) (r : List UInt8) : decode (b :: r) = b :: decode r := by
  rw [decode.eq_def]
  split
  · rename_i e
    cases e
  · rename_i e
    cases e
    exact absurd rfl h
  · rename_i e
    cases e
    rfl

theorem encode_encodeByte (b : UInt8) : Utf8.encode (encodeByte b)
    = [37, UInt8.ofNat (digit (b.toNat / 16)).toNat, UInt8.ofNat (digit (b.toNat % 16)).toNat] := by
  have hb := b.toNat_lt
  simp only [Utf8.encode, encodeByte, List.flatMap_cons, List.flatMap_nil,
    Utf8.utf8EncodeChar_of_lt (toNat_digit_lt (b.toNat / 16) (by omega)),
    Utf8.utf8EncodeChar_of_lt (toNat_digit_lt (b.toNat % 16) (by omega)),
    Utf8.utf8EncodeChar_of_lt (x := '%') (by decide)]
  rfl

theorem decode_encodeByte (b : UInt8) (rest : List UInt8) :
    decode (Utf8.encode (encodeByte b) ++ rest) = b :: decode rest := by
  have hb := b.toNat_lt
  have value : UInt8.ofNat (b.toNat / 16 * 16 + b.toNat % 16) = b := by
    rw [Nat.div_add_mod', UInt8.ofNat_toNat]
  rw [encode_encodeByte]
  simp only [List.cons_append, List.nil_append, decode,
    digitValue?_digit (b.toNat / 16) (by omega), digitValue?_digit (b.toNat % 16) (by omega), value]

theorem decode_encodeBytes (bytes rest : List UInt8) :
    decode (Utf8.encode (bytes.flatMap encodeByte) ++ rest) = bytes ++ decode rest := by
  induction bytes with
  | nil => rfl
  | cons b r ih =>
    have front : Utf8.encode ((b :: r).flatMap encodeByte)
        = Utf8.encode (encodeByte b) ++ Utf8.encode (r.flatMap encodeByte) := by
      simp only [Utf8.encode, List.flatMap_cons, List.flatMap_append]
    rw [front, List.append_assoc, decode_encodeByte, ih]
    rfl

end Percent

namespace Form

open Text

variable {c d : Char} {s r : List Char}

/-- The characters that end a name, a pair or a query. -/
def marks : List Char := ['&', '=', '#']

/-- What a character of a written line stands for before percent signs count. -/
def spaced (c : Char) : Char := if c = '+' then ' ' else c

/-- A character of a name or value. -/
def encodeOne (c : Char) : List Char :=
  if c = ' ' then ['+'] else if isPlain c then [c] else Percent.encodeChar c

theorem encode_cons : encode (c :: s) = encodeOne c ++ encode s := rfl

theorem toNat_lt_of_isPlain (h : isPlain c = true) : c.toNat < 0x80 := by
  have below {d : Char} (hd : d.toNat < 0x80) (h : c.val ≤ d.val) : c.toNat < 0x80 :=
    Nat.lt_of_le_of_lt (UInt32.le_iff_toNat_le.1 h) hd
  rcases Bool.or_eq_true_iff.1 h with alphanum | mark
  · rcases Bool.or_eq_true_iff.1 alphanum with letter | digit
    · rcases Bool.or_eq_true_iff.1 letter with upper | lower
      · exact below (by decide) (of_decide_eq_true upper).2
      · exact below (by decide) (of_decide_eq_true (Bool.and_eq_true_iff.1 lower).2)
    · exact below (by decide) (of_decide_eq_true (Bool.and_eq_true_iff.1 digit).2)
  · simp only [List.contains_eq_mem, decide_eq_true_eq, List.mem_cons, List.not_mem_nil,
      or_false] at mark
    rcases mark with rfl | rfl | rfl | rfl <;> decide

theorem isPlain_digit : ∀ n, n < 16 → isPlain (Percent.digit n) = true := by decide

/-- What means something else in a line does not stand for itself. -/
theorem ne_of_isPlain (h : isPlain c = true) (hd : d ∈ '%' :: '+' :: marks) : d ≠ c := by
  rintro rfl
  simp only [marks, List.mem_cons, List.not_mem_nil, or_false] at hd
  rcases hd with rfl | rfl | rfl | rfl | rfl <;> cases h

theorem not_mem_encodeChar (hd : d ∈ '+' :: marks) : d ∉ Percent.encodeChar c := by
  intro h
  obtain ⟨b, -, hb⟩ := List.mem_flatMap.1 h
  rcases Percent.exists_digit_of_mem hb with rfl | ⟨n, hn, rfl⟩
  · revert hd
    decide
  · exact ne_of_isPlain (isPlain_digit n hn) (List.mem_cons_of_mem _ hd) rfl

theorem not_mem_encodeOne (hd : d ∈ marks) : d ∉ encodeOne c := by
  unfold encodeOne
  split_ifs with hs hp
  · rw [List.mem_singleton]
    rintro rfl
    revert hd
    decide
  · rw [List.mem_singleton]
    exact ne_of_isPlain hp (by simp [hd])
  · exact not_mem_encodeChar (List.mem_cons_of_mem _ hd)

theorem not_mem_encode (hd : d ∈ marks) (s : List Char) : d ∉ encode s := by
  intro h
  obtain ⟨c, -, hc⟩ := List.mem_flatMap.1 h
  exact not_mem_encodeOne hd hc

theorem map_spaced (h : '+' ∉ s) : s.map spaced = s := by
  refine (List.map_congr_left fun c hc => ?_).trans (List.map_id s)
  refine if_neg ?_
  rintro rfl
  exact h hc

/-- A character is read as the bytes it stands for, whatever comes after it. -/
theorem decode_encodeOne (c : Char) (rest : List UInt8) :
    Percent.decode (Utf8.encode ((encodeOne c).map spaced) ++ rest)
      = String.utf8EncodeChar c ++ Percent.decode rest := by
  unfold encodeOne
  split_ifs with hs hp
  · subst hs
    exact Percent.decode_cons_of_ne (by decide) rest
  · have ascii := toNat_lt_of_isPlain hp
    have byte : UInt8.ofNat c.toNat ≠ 37 := by
      intro h
      have value : c.toNat = 37 := by
        have := congrArg UInt8.toNat h
        rwa [Utf8.toNat_ofNat (by omega)] at this
      exact ne_of_isPlain hp (by decide : '%' ∈ _) (Char.toNat_inj.1 value).symm
    have single : Utf8.encode ([c].map spaced) = [UInt8.ofNat c.toNat] := by
      rw [map_spaced (by simpa using ne_of_isPlain hp (by decide : '+' ∈ _))]
      exact (List.append_nil _).trans (Utf8.utf8EncodeChar_of_lt ascii)
    rw [single, Utf8.utf8EncodeChar_of_lt ascii]
    exact Percent.decode_cons_of_ne byte rest
  · rw [map_spaced (not_mem_encodeChar (by decide))]
    exact Percent.decode_encodeBytes _ rest

theorem decodeBytes_encode (s : List Char) :
    Percent.decode (Utf8.encode ((encode s).map spaced)) = Utf8.encode s := by
  induction s with
  | nil => rfl
  | cons c s ih =>
    have front : Utf8.encode ((encode (c :: s)).map spaced)
        = Utf8.encode ((encodeOne c).map spaced) ++ Utf8.encode ((encode s).map spaced) := by
      rw [encode_cons, List.map_append]
      exact List.flatMap_append
    rw [front, decode_encodeOne, ih]
    rfl

/-- A name or a value is read as it was written. -/
theorem decode_encode (s : String) : decode (encode s.toList) = s := by
  refine Eq.trans (congrArg Utf8.lossyText (decodeBytes_encode s.toList)) ?_
  rw [Utf8.lossyText, Utf8.decodeLossy_encode, String.ofList_toList]

theorem decodePair_encodePair (p : String × String) : decodePair (encodePair p) = p := by
  have split := splitAt?_append (not_mem_encode (by decide : '=' ∈ marks) p.1.toList)
    (encode p.2.toList)
  unfold decodePair encodePair
  rw [split]
  simp only [decode_encode]

/-- A pair holds no mark but the one between name and value. -/
theorem not_mem_encodePair (hd : d ∈ marks) (hne : d ≠ '=') (p : String × String) :
    d ∉ encodePair p := by
  unfold encodePair
  rw [List.mem_append, List.mem_cons, not_or, not_or]
  exact ⟨not_mem_encode hd _, hne, not_mem_encode hd _⟩

/-- Pairs do not end the query that they are written into. -/
theorem not_mem_append (pairs : List (String × String)) :
    ∀ s : List Char, '#' ∉ s → '#' ∉ append s pairs := by
  induction pairs with
  | nil => exact fun _ hs => hs
  | cons p rest ih =>
    intro s hs
    refine ih _ ?_
    rw [List.mem_append, List.mem_append, not_or, not_or]
    refine ⟨⟨hs, ?_⟩, not_mem_encodePair (by decide) (by decide) p⟩
    split_ifs <;> decide

/-- The parts of a line that hold something. -/
def parts (s : List Char) : List (List Char) :=
  (fields (· == '&') s).filter fun f => !f.isEmpty

theorem parts_encodePair (p : String × String) : parts (encodePair p) = [encodePair p] := by
  have whole : fields (· == '&') (encodePair p) = [encodePair p] := by
    rw [fields_eq_splitOnP]
    refine List.splitOnP_eq_singleton fun c hc => beq_eq_false_iff_ne.2 ?_
    rintro rfl
    exact not_mem_encodePair (by decide) (by decide) p hc
  have holds : encodePair p ≠ [] := List.append_ne_nil_of_right_ne_nil _ (List.cons_ne_nil _ _)
  rw [parts, whole]
  exact List.filter_cons_of_pos (by simpa using holds)

theorem parts_append (s r : List Char) : parts (s ++ '&' :: r) = parts s ++ parts r := by
  unfold parts
  rw [fields_eq_splitOnP, fields_eq_splitOnP, fields_eq_splitOnP,
    List.splitOnP_append_cons _ _ rfl, List.filter_append]

/-- One more pair is one more part, whatever the line ends with. -/
theorem parts_append_one (s : List Char) (p : String × String) :
    parts (s ++ (if s.isEmpty then [] else ['&']) ++ encodePair p) = parts s ++ [encodePair p] := by
  cases s with
  | nil => exact parts_encodePair p
  | cons c r =>
    rw [← parts_encodePair p]
    simpa using parts_append (c :: r) (encodePair p)

theorem parts_append_pairs (s : List Char) (pairs : List (String × String)) :
    parts (append s pairs) = parts s ++ pairs.map encodePair := by
  induction pairs generalizing s with
  | nil => exact (List.append_nil _).symm
  | cons p rest ih =>
    refine (ih _).trans ?_
    rw [parts_append_one, List.append_assoc]
    rfl

/-- Pairs written behind a line are read, as they were, behind what the line held. -/
theorem read_append (s : List Char) (pairs : List (String × String)) :
    read (String.ofList (append s pairs)) = read (String.ofList s) ++ pairs := by
  have same (line : List Char) : read (String.ofList line) = (parts line).map decodePair := by
    rw [read, String.toList_ofList]
    rfl
  rw [same, same, parts_append_pairs, List.map_append, List.map_map]
  congr 1
  exact (List.map_congr_left fun p _ => decodePair_encodePair p).trans (List.map_id pairs)

end Form

end Dialogue
