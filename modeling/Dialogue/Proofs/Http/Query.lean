import Dialogue.Proofs.Http.Guard
import Dialogue.Proofs.Url.Form

/-!
# What a query holds

The parameters of a call are read from the prepared address as they were resolved, behind what the
address held in its query before, and nothing else of the address changes (`pairs_of_prepare`).
-/

namespace Dialogue

namespace Url

open Text

variable {names : HostNames} {s : List Char} {u : Url}

/-! ## Queries of addresses that were read

However an address is read, it is put together by `assemble`, which encodes what would end the
query. -/

theorem mark_not_mem_encode {set : Char → Bool} (h : set '#' = true) (s : List Char) :
    '#' ∉ Percent.encode set s := by
  intro hm
  obtain ⟨c, -, hc⟩ := List.mem_flatMap.1 hm
  split at hc
  · exact Form.not_mem_encodeChar (by decide) hc
  · rename_i hs
    rw [← List.mem_singleton.1 hc] at hs
    exact hs h

/-- No query of an address that was put together holds the mark of a fragment. -/
theorem mark_not_mem_assemble {scheme path : List Char} {a : Authority}
    {query fragment : Option (List Char)} {q : String}
    (h : (assemble scheme a path query fragment).query = some q) : '#' ∉ q.toList := by
  obtain ⟨text, -, rfl⟩ := Option.map_eq_some_iff.1 h
  rw [String.toList_ofList]
  refine mark_not_mem_encode ?_ text
  split <;> rfl

theorem eq_assemble_of_parseFile (h : parseFile names s = .ok u) :
    ∃ scheme a path query fragment, u = assemble scheme a path query fragment := by
  unfold parseFile at h
  simp only [bind, Except.bind, pure, Except.pure] at h
  repeat' split at h
  all_goals first
    | exact ⟨_, _, _, _, _, (Except.ok.inj h).symm⟩
    | cases h

theorem eq_assemble_of_parse (h : parseChars names s = .ok u) :
    ∃ scheme a path query fragment, u = assemble scheme a path query fragment := by
  unfold parseChars at h
  split at h
  · cases h
  · simp only [bind, Except.bind, pure, Except.pure] at h
    split at h
    · exact eq_assemble_of_parseFile h
    all_goals
      repeat' split at h
      all_goals first
        | exact ⟨_, _, _, _, _, (Except.ok.inj h).symm⟩
        | cases h

theorem mark_not_mem_query {text q : String} (h : parse text names = .ok u) (hq : u.query = some q) :
    '#' ∉ q.toList := by
  obtain ⟨scheme, a, path, query, fragment, rfl⟩ := eq_assemble_of_parse h
  exact mark_not_mem_assemble hq

/-! ## Pairs behind a query -/

variable {pairs : List (String × String)}

theorem pairs_addPairs : (u.addPairs pairs).pairs = u.pairs ++ pairs := by
  unfold addPairs
  split
  · rename_i h
    rw [List.isEmpty_iff.1 h, List.append_nil]
  · have read := Form.read_append (u.query.getD "").toList pairs
    rwa [String.ofList_toList] at read

theorem addPairs_eq : u.addPairs pairs = { u with query := (u.addPairs pairs).query } := by
  unfold addPairs
  split
  · rfl
  · rfl

theorem mark_not_mem_addPairs (h : ∀ q, u.query = some q → '#' ∉ q.toList) :
    ∀ q, (u.addPairs pairs).query = some q → '#' ∉ q.toList := by
  unfold addPairs
  split
  · exact h
  · rintro _ ⟨⟩
    rw [String.toList_ofList]
    refine Form.not_mem_append pairs _ ?_
    cases hq : u.query with
    | none => decide
    | some q => exact h q hq

end Url

namespace HttpCall

/-- The prepared address is the one that the text of the call resolves to, but for the query. That
holds the pairs it held and behind them, in their order, the parameters of the call, with keys
resolved and trimmed and values resolved, as long as there is a key. Nothing in it begins a
fragment. -/
theorem pairs_of_prepare {c : HttpCall} {settings : HttpSettings} {scope : Json}
    {allowed : Allowlist} {request : HttpRequest}
    (h : c.prepare settings scope allowed = .ok request) :
    ∃ url, Url.parse (Text.trim (Template.resolve c.url scope)) settings.hostNames = .ok url
      ∧ request.url.pairs = url.pairs ++ (c.queryParams.map fun p =>
          (Text.trim (Template.resolve p.key scope), Template.resolve p.value scope)).filter
            (fun p => p.1 ≠ "")
      ∧ request.url = { url with query := request.url.query }
      ∧ ∀ q, request.url.query = some q → '#' ∉ q.toList := by
  obtain ⟨url, body, ha, -, rfl⟩ := prepare_eq_ok_iff.1 h
  obtain ⟨hp, -⟩ := address_eq_ok_iff.1 ha
  have unended : ∀ q, url.query = some q → '#' ∉ q.toList := fun q => Url.mark_not_mem_query hp
  refine ⟨url, hp, ?_, Url.addPairs_eq, Url.mark_not_mem_addPairs unended⟩
  rw [Url.pairs_addPairs, resolvePairs]
  refine congrArg _ (List.filter_congr fun p _ => ?_)
  rw [decide_not, Bool.not_inj_iff, Bool.eq_iff_iff, String.isEmpty_iff, decide_eq_true_eq]

namespace Search

/-- The query that stands in the text ends in an empty pair, and a fragment stands behind it. -/
def call : HttpCall where
  method := .get
  url := " https://api.example.com/find?a=1&b=x+y&#top"
  auth := .none
  headers := []
  queryParams := [⟨" \x7b\x7bkey\x7d\x7d ", "\x7b\x7bvalue\x7d\x7d"⟩,
    ⟨"\x7b\x7bgone\x7d\x7d", "c"⟩, ⟨"d", ""⟩]
  body := .none
  responseMapping := []
  timeoutMs := none

def scope : Json := .obj [("key", .str "q&x="), ("value", .str "1&a=2#+% é")]

def allowed : Allowlist := ⟨["example.com".toList]⟩

def target : Url where
  scheme := "https"
  username := ""
  password := ""
  host := some "api.example.com"
  port := none
  path := "/find"
  query := some "a=1&b=x+y&"
  fragment := some "top"

def request : HttpRequest where
  method := .get
  url := { target with query := some "a=1&b=x+y&&q%26x%3D=1%26a%3D2%23%2B%25+%C3%A9&d=" }
  auth := .none
  headers := []
  body := .empty
  timeoutMs := 10000

end Search

open Search in
theorem pairs_search : call.prepare .standard scope allowed = .ok request
    ∧ request.url.pairs = [("a", "1"), ("b", "x y"), ("q&x=", "1&a=2#+% é"), ("d", "")] := by
  have prepared : call.prepare .standard scope allowed = .ok request := by decide +kernel
  obtain ⟨url, parsed, read, -, -⟩ := pairs_of_prepare prepared
  have same : url = target := by
    have text : Url.parse (Text.trim (Template.resolve call.url scope)) = .ok target := by
      decide +kernel
    exact Except.ok.inj (parsed.symm.trans text)
  refine ⟨prepared, read.trans ?_⟩
  rw [same]
  decide +kernel

end HttpCall

end Dialogue
