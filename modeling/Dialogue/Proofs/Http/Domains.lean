import Dialogue.Proofs.Http.Guard
import Dialogue.Proofs.Json.Arrays
import Dialogue.Proofs.Text.Trimming

/-!
# What an entry allows

A host is allowed by an entry if the labels of the entry's normal form are the last labels of the
host (`covers_iff_labels`), so a name that only ends in the same letters is not. Entries are stored
as an array of texts or as a text with commas or line breaks between them, and blanks around either
do not count (`permits_parse`): a text that is an array behind a blank is read as the array,
although it does not begin with a bracket (`permits_arrayBehindBlank`).
-/

namespace Dialogue

namespace Allowlist

open Text

/-! ## Labels -/

/-- The labels of a name: what stands between its points. -/
def labels (name : List Char) : List (List Char) := name.splitOn '.'

theorem labels_append_dot (front name : List Char) :
    labels (front ++ '.' :: name) = labels front ++ labels name :=
  List.splitOnP_append_cons front name (beq_self_eq_true _)

theorem labels_ne_nil (name : List Char) : labels name ≠ [] := List.splitOnP_ne_nil _ _

theorem intercalate_labels (name : List Char) : ['.'].intercalate (labels name) = name :=
  List.intercalate_splitOn '.'

theorem intercalate_append {x : Char} {back : List (List Char)} (hback : back ≠ []) :
    ∀ {front : List (List Char)}, front ≠ [] →
      [x].intercalate (front ++ back) = [x].intercalate front ++ x :: [x].intercalate back
  | [], h => absurd rfl h
  | [a], _ => by
    obtain ⟨b, bs, rfl⟩ := List.exists_cons_of_ne_nil hback
    rw [List.singleton_append, List.intercalate_cons_cons, List.intercalate_singleton,
      List.append_assoc, List.singleton_append]
  | a :: a' :: r, _ => by
    rw [List.cons_append, List.cons_append, List.intercalate_cons_cons, ← List.cons_append,
      intercalate_append hback (List.cons_ne_nil a' r), List.intercalate_cons_cons,
      List.append_assoc (a ++ [x])]

/-- A host ends in the labels of a name if it is the name, or has a point in front of it. -/
theorem labels_suffix_iff {name host : List Char} :
    labels name <:+ labels host ↔ host = name ∨ ∃ front, host = front ++ '.' :: name := by
  constructor
  · rintro ⟨front, hfront⟩
    have joined : ['.'].intercalate (front ++ labels name) = host := by
      rw [hfront, intercalate_labels]
    by_cases hnil : front = []
    · rw [hnil, List.nil_append, intercalate_labels] at joined
      exact .inl joined.symm
    · rw [intercalate_append (labels_ne_nil name) hnil, intercalate_labels] at joined
      exact .inr ⟨_, joined.symm⟩
  · rintro (rfl | ⟨front, rfl⟩)
    · exact List.suffix_refl _
    · exact labels_append_dot front name ▸ List.suffix_append _ _

/-- An entry covers the hosts that end in its labels. -/
theorem covers_iff_labels {domain host : List Char} :
    covers domain host = true ↔ labels domain <:+ labels host :=
  covers_iff.trans labels_suffix_iff.symm

/-! ## Normal forms -/

/-- A host as it is compared: in lower case, without points at its end. -/
def hostName (host : String) : List Char := (dropEndChars '.' host.toList).map Char.toLower

/-- An entry names a host: it has a normal form, and the host ends in the labels of that. -/
def Names (entry host : String) : Prop :=
  normal entry.toList ≠ [] ∧ labels (normal entry.toList) <:+ labels (hostName host)

instance (entry host : String) : Decidable (Names entry host) :=
  inferInstanceAs (Decidable (_ ∧ _))

theorem permits_ofEntries_iff {entries : List String} {host : String} :
    (ofEntries (entries.map String.toList)).permits host = true ↔ ∃ e ∈ entries, Names e host := by
  unfold permits ofEntries
  simp only [List.any_eq_true, List.mem_filter, List.mem_map, covers_iff_labels]
  constructor
  · rintro ⟨_, ⟨⟨_, ⟨e, he, rfl⟩, rfl⟩, hne⟩, covered⟩
    refine ⟨e, he, ?_, covered⟩
    simpa using hne
  · rintro ⟨e, he, hne, covered⟩
    exact ⟨_, ⟨⟨_, ⟨e, he, rfl⟩, rfl⟩, by simpa using hne⟩, covered⟩

/-- The characters that may not count at the ends of an entry. -/
def isPadding (c : Char) : Bool := isBlank c || c == '"' || c == '*' || c == '.'

theorem dropWildcard_append {lead name : List Char} (hlead : lead ∈ [[], ['.'], ['*', '.']])
    (head : ∀ c, name.head? = some c → isPadding c = false) :
    dropWildcard (lead ++ name) = name := by
  simp only [List.mem_cons, List.not_mem_nil, or_false] at hlead
  rcases hlead with rfl | rfl | rfl
  · rw [List.nil_append]
    unfold dropWildcard
    split
    · cases head '*' rfl
    · cases head '.' rfl
    · rfl
  · rfl
  · rfl

/-- A way to write a name: blanks and in them quotes around it, `*.` or a point in front of it, and
points behind it. -/
inductive Spells (name : List Char) : List Char → Prop
  | mk {front back lead : List Char} (quotes quotes' points : Nat) :
    (∀ c ∈ front, isBlank c = true) → (∀ c ∈ back, isBlank c = true) →
    lead ∈ [[], ['.'], ['*', '.']] →
    Spells name (front ++ (List.replicate quotes '"'
      ++ (lead ++ (name ++ List.replicate points '.')) ++ List.replicate quotes' '"') ++ back)

/-- However a name is written, it has one normal form. -/
theorem Spells.normal_eq {name entry : List Char} (spells : Spells name entry) (hne : name ≠ [])
    (bare : Bare isPadding name) : normal entry = name.map Char.toLower := by
  obtain @⟨front, back, lead, quotes, quotes', points, hfront, hback, hlead⟩ := spells
  have bare' : ∀ p : Char → Bool, (∀ c, p c = true → isPadding c = true) → p '*' = false →
      p '.' = false → Bare p (lead ++ (name ++ List.replicate points '.')) := by
    intro p hp star point
    have ending := (bare.mono hp).pad hne point 0 points
    simp only [List.mem_cons, List.not_mem_nil, or_false] at hlead
    rcases hlead with rfl | rfl | rfl
    · exact ending
    · simpa using ending.pad (by simp [hne]) point 1 0
    · simpa using (ending.pad (by simp [hne]) point 1 0).pad (by simp) star 1 0
  have unquoted : Bare (· == '"') (lead ++ (name ++ List.replicate points '.')) :=
    bare' _ (by simp +contextual [isPadding]) rfl rfl
  have unblank := (bare' isBlank (by simp +contextual [isPadding]) rfl rfl).pad (c := '"')
    (by simp [hne]) rfl quotes quotes'
  unfold normal trimChars trimStartChars trimEndChars dropQuotes dropEndChars
  rw [dropBoth_padded hfront hback (by simp [hne]) unblank,
    dropBoth_padded (by simp) (by simp) (by simp [hne]) unquoted,
    dropWildcard_append hlead, dropEnd_padded (by simp)]
  · exact (bare.mono (by simp +contextual [isPadding])).last
  · obtain ⟨c, r, rfl⟩ := List.exists_cons_of_ne_nil hne
    exact bare.head

/-! ## What is stored -/

/-- The characters that stand between entries. -/
def isSeparator (c : Char) : Bool := c == ',' || c == '\n'

/-- No separator stands in an entry. -/
def Plain (e : String) : Prop := ∀ c ∈ e.toList, isSeparator c = false

-- Given by hand, as the search for an instance would come to try every character there is.
instance (e : String) : Decidable (Plain e) := List.decidableBAll _ _

/-- A text lists entries, with a comma or a line break between each two. -/
inductive Lists : List String → List Char → Prop
  | none : Lists [] []
  | last {e : String} : Plain e → Lists [e] e.toList
  | more {e f : String} {es : List String} {c : Char} {rest : List Char} :
    Plain e → isSeparator c = true → Lists (f :: es) rest →
    Lists (e :: f :: es) (e.toList ++ c :: rest)

/-- A setting holds entries: it is an array of them or, if it is no array of texts, lists them.
Blanks around an array do not count. -/
inductive Holds (entries : List String) (setting : String) : Prop
  | array : Json.parse? (trim setting) = some (.strings entries) → Holds entries setting
  | text : Lists entries setting.toList →
    (∀ l, Json.parse? (trim setting) ≠ some (.strings l)) → Holds entries setting

theorem splitOnP_of_lists {entries : List String} {s : List Char} (h : Lists entries s)
    (hne : entries ≠ []) : s.splitOnP isSeparator = entries.map String.toList := by
  induction h with
  | none => exact absurd rfl hne
  | last plain => exact List.splitOnP_eq_singleton plain
  | more plain sep _ ih =>
    rw [List.splitOnP_append_cons_of_forall_mem plain _ sep, ih (List.cons_ne_nil _ _)]
    rfl

/-- The domains of a text that lists entries. -/
def listed (s : List Char) : Allowlist := ofEntries (s.splitOnP isSeparator)

theorem listed_of_lists {entries : List String} {s : List Char} (h : Lists entries s) :
    listed s = ofEntries (entries.map String.toList) := by
  cases entries with
  | nil =>
    cases h
    rfl
  | cons e es => rw [listed, splitOnP_of_lists h (List.cons_ne_nil e es)]

theorem ofEntries_append (a b : List (List Char)) :
    ofEntries (a ++ b) = ⟨(ofEntries a).domains ++ (ofEntries b).domains⟩ := by
  unfold ofEntries
  rw [List.map_append, List.filter_append]

theorem normal_of_trimChars_eq {s t : List Char} (h : trimChars s = trimChars t) :
    normal s = normal t := by
  unfold normal
  rw [h]

/-- A blank in front of a text belongs to its first entry, or parts it from an empty one. -/
theorem listed_cons_of_blank {c : Char} (hc : isBlank c = true) (s : List Char) :
    listed (c :: s) = listed s := by
  unfold listed
  rw [List.splitOnP_cons_eq_if_modifyHead]
  split
  · rfl
  · obtain ⟨f, fs, hf⟩ := List.exists_cons_of_ne_nil (List.splitOnP_ne_nil isSeparator s)
    rw [hf, List.modifyHead_cons, ofEntries, ofEntries, List.map_cons, List.map_cons,
      normal_of_trimChars_eq (trimChars_cons_of_blank hc)]

theorem splitOnP_concat {sep : Char → Bool} {c : Char} (hc : sep c = false) (s : List Char) :
    ∃ front last, s.splitOnP sep = front ++ [last]
      ∧ (s ++ [c]).splitOnP sep = front ++ [last ++ [c]] := by
  induction s with
  | nil => exact ⟨[], [], rfl, List.splitOnP_eq_singleton (by simpa using hc)⟩
  | cons d s ih =>
    obtain ⟨front, last, hs, hsc⟩ := ih
    rw [List.cons_append, List.splitOnP_cons_eq_if_modifyHead, hs,
      List.splitOnP_cons_eq_if_modifyHead, hsc]
    by_cases hd : sep d = true
    · exact ⟨[] :: front, last, by simp [hd], by simp [hd]⟩
    · cases front with
      | nil => exact ⟨[], d :: last, by simp [hd], by simp [hd]⟩
      | cons f fs => exact ⟨(d :: f) :: fs, last, by simp [hd], by simp [hd]⟩

theorem listed_concat_of_blank {c : Char} (hc : isBlank c = true) (s : List Char) :
    listed (s ++ [c]) = listed s := by
  unfold listed
  cases hsep : isSeparator c with
  | true =>
    rw [List.splitOnP_append_cons s [] hsep, ofEntries_append]
    exact congrArg Allowlist.mk (List.append_nil _)
  | false =>
    obtain ⟨front, last, hs, hsc⟩ := splitOnP_concat hsep s
    rw [hs, hsc, ofEntries_append, ofEntries_append front [last], ofEntries, ofEntries,
      ofEntries, List.map_singleton, List.map_singleton,
      normal_of_trimChars_eq (trimChars_concat_of_blank hc)]

theorem listed_trimChars (s : List Char) : listed (trimChars s) = listed s :=
  apply_trimChars (fun _ s hc => listed_cons_of_blank hc s)
    (fun _ s hc => listed_concat_of_blank hc s) s

/-! ## Reading the setting -/

section Reading

variable {entries : List String} {setting : String}

theorem entriesOfJson?_strings (entries : List String) :
    entriesOfJson? (.strings entries) = some (entries.map String.toList) := by
  show (entries.map Json.str).mapM _ = _
  induction entries with
  | nil => rfl
  | cons e es ih =>
    rw [List.map_cons, List.mapM_cons, ih]
    rfl

theorem eq_strings_of_entriesOfJson? {j : Json} {l : List (List Char)}
    (h : entriesOfJson? j = some l) : ∃ entries, j = .strings entries := by
  unfold entriesOfJson? at h
  split at h
  · rename_i items
    suffices ∃ entries : List String, items = entries.map Json.str from
      this.imp fun _ => congrArg Json.arr
    induction items generalizing l with
    | nil => exact ⟨[], rfl⟩
    | cons v items ih =>
      rw [List.mapM_cons] at h
      obtain ⟨a, ha, h⟩ := Option.bind_eq_some_iff.1 h
      obtain ⟨as, has, -⟩ := Option.bind_eq_some_iff.1 h
      obtain ⟨es, rfl⟩ := ih has
      cases v with
      | str s => exact ⟨s :: es, rfl⟩
      | _ => simp [Json.str?] at ha
  · cases h

/-- What reads as an array begins with a bracket, blanks in front of it aside. -/
theorem parse_of_array (h : Json.parse? (trim setting) = some (.strings entries)) :
    parse setting = ofEntries (entries.map String.toList) := by
  have space : ∀ c, isBlank c = false → Json.isSpace c = false := by
    intro c hc
    simp only [Json.isSpace, Bool.or_eq_false_iff, beq_eq_false_iff_ne]
    refine ⟨⟨⟨?_, ?_⟩, ?_⟩, ?_⟩ <;> rintro rfl <;> cases hc
  have opened := Json.head?_of_parse?_arr h
  rw [trim, String.toList_ofList] at opened
  rw [Json.skipSpace, dropWhile_eq_self fun c hc => space c (head_trimChars _ c hc)] at opened
  unfold parse
  dsimp only
  rw [opened, if_pos (beq_self_eq_true _)]
  unfold trim at h
  rw [h, Option.bind_some, entriesOfJson?_strings, Option.getD_some]

theorem parse_of_text (h : ∀ l, Json.parse? (trim setting) ≠ some (.strings l)) :
    parse setting = listed setting.toList := by
  have noArray : (Json.parse? (trim setting)).bind entriesOfJson? = Option.none := by
    rw [Option.eq_none_iff_forall_ne_some]
    intro l hl
    obtain ⟨j, hj, hl⟩ := Option.bind_eq_some_iff.1 hl
    obtain ⟨es, rfl⟩ := eq_strings_of_entriesOfJson? hl
    exact h es hj
  unfold trim at noArray
  rw [← listed_trimChars, listed, ← fields_eq_splitOnP]
  unfold parse
  dsimp only
  rw [noArray, ite_self]
  rfl

theorem Holds.parse_eq (h : Holds entries setting) :
    parse setting = ofEntries (entries.map String.toList) := by
  cases h with
  | array h => exact parse_of_array h
  | text lists h => rw [parse_of_text h, listed_of_lists lists]

end Reading

/-- The array that is written for entries holds them. -/
theorem holds_render (entries : List String) : Holds entries (Json.strings entries).render := by
  have plain : trimChars (Json.strings entries).render.toList
      = (Json.strings entries).render.toList := by
    rw [Json.strings, Json.render, String.toList_append, String.toList_append]
    refine trimChars_of_bare ⟨?_, fun c hc => ?_⟩
    · rintro c ⟨⟩
      rfl
    · rw [show "]".toList = [']'] from rfl, List.getLast?_concat] at hc
      cases hc
      rfl
  refine .array ?_
  rw [trim, plain, String.ofList_toList, Json.parse?_render_strings]

/-- A host that only ends in the letters of an entry's normal form is not named by it. -/
theorem not_names_of_lookAlike {entry host : String} {front : List Char} {c : Char} (hc : c ≠ '.')
    (same : hostName host = front ++ c :: normal entry.toList) : ¬ Names entry host := by
  rintro ⟨-, suffix⟩
  rw [labels_suffix_iff, same] at suffix
  rcases suffix with h | ⟨front', h⟩
  · have length := congrArg List.length h
    simp only [List.length_append, List.length_cons] at length
    omega
  · rw [List.append_cons, List.append_cons front'] at h
    have := List.append_cancel_right h
    simp_all

/-- Entries can be stored as an array. However they are stored, a host is permitted exactly if it
ends in the labels of the normal form of one of them. A host with another character than a point in
front of the normal form of an entry is not named by the entry, and the normal form of a name is the
same in every spelling. -/
theorem permits_parse (entries : List String) :
    Holds entries (Json.strings entries).render
    ∧ (∀ setting, Holds entries setting → ∀ host,
      (parse setting).permits host = true ↔ ∃ e ∈ entries, Names e host)
    ∧ (∀ e ∈ entries, ∀ host front c, c ≠ '.' →
      hostName host = front ++ c :: normal e.toList → ¬ Names e host)
    ∧ ∀ e ∈ entries, ∀ name, name ≠ [] → Bare isPadding name → Spells name e.toList →
      normal e.toList = name.map Char.toLower := by
  refine ⟨holds_render entries, fun setting h host => ?_, fun e _ host front c hc same => ?_,
    fun e _ name hne bare spells => spells.normal_eq hne bare⟩
  · rw [h.parse_eq, permits_ofEntries_iff]
  · exact not_names_of_lookAlike hc same

namespace Mixed

def entries : List String := [" \"*.Example.com.\"", "", " intra.. "]

def setting : String := " \"*.Example.com.\",\n intra.. "

theorem lists : Lists entries setting.toList := by
  have split : setting.toList = " \"*.Example.com.\"".toList ++ ',' :: ("".toList ++ '\n' ::
    " intra.. ".toList) := by decide +kernel
  rw [split]
  exact .more (by decide +kernel) rfl (.more (by decide +kernel) rfl (.last (by decide +kernel)))

end Mixed

open Mixed in
theorem permits_mixed : Holds entries setting
    ∧ (parse setting).permits "api.EXAMPLE.com." = true
    ∧ (parse setting).permits "notexample.com" = false := by
  have noArray : ∀ l, Json.parse? (trim setting) ≠ some (.strings l) := by
    intro l hl
    have opened := Json.head?_of_parse?_arr hl
    revert opened
    decide +kernel
  have holds : Holds entries setting := .text lists noArray
  have iff := (permits_parse entries).2.1 setting holds
  refine ⟨holds, (iff _).2 (by decide +kernel), ?_⟩
  rw [Bool.eq_false_iff, ne_eq, iff]
  decide +kernel

/-- A text that is an array behind its blank lists one entry, and does not begin with a bracket; but
it is read as the array. -/
theorem permits_arrayBehindBlank : Lists [" [\"intra\"]"] " [\"intra\"]".toList
    ∧ " [\"intra\"]".toList.head? ≠ some '['
    ∧ (parse " [\"intra\"]").permits "intra" = true
    ∧ ¬ ∃ e ∈ [" [\"intra\"]"], Names e "intra" :=
  ⟨.last (by decide +kernel), by decide +kernel, by decide +kernel, by decide +kernel⟩

end Allowlist

end Dialogue
