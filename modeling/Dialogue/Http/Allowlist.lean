import Dialogue.Json.Reader
import Dialogue.Text.Blank

/-!
# Allowed domains

The domains that calls may go to. An entry allows its own name and every name below it. Entries
are written with or without a leading `*.` or point, in any letter case; the setting is an array of
them, or a text with commas or line breaks between them.
-/

namespace Dialogue

/-- The domains that calls may go to, in normal form. -/
structure Allowlist where
  domains : List (List Char)
  deriving DecidableEq, Repr

namespace Allowlist

open Text

/-- An allowlist that allows nothing. -/
def none : Allowlist := ⟨[]⟩

/-- Drops quotes at both ends. -/
def dropQuotes (s : List Char) : List Char := dropEndChars '"' (s.dropWhile (· == '"'))

/-- Drops a leading `*.` or point. -/
def dropWildcard : List Char → List Char
  | '*' :: '.' :: r => r
  | '.' :: r => r
  | s => s

/-- The normal form of an entry, which may be empty. -/
def normal (entry : List Char) : List Char :=
  (dropEndChars '.' (dropWildcard (dropQuotes (trimChars entry)))).map Char.toLower

/-- The allowlist of entries; those without a normal form are left out. -/
def ofEntries (entries : List (List Char)) : Allowlist :=
  ⟨(entries.map normal).filter fun d => !d.isEmpty⟩

/-- The entries of an array of texts. -/
def entriesOfJson? (j : Json) : Option (List (List Char)) :=
  match j with
  | .arr items => items.mapM fun v => v.str?.map String.toList
  | _ => Option.none

/-- Reads the setting. -/
def parse (setting : String) : Allowlist :=
  let s := trimChars setting.toList
  let listed := if s.head? == some '[' then (Json.parse? (String.ofList s)).bind entriesOfJson?
    else Option.none
  ofEntries (listed.getD (fields (fun c => c == ',' || c == '\n') s))

/-- Whether nothing is allowed. -/
def isEmpty (a : Allowlist) : Bool := a.domains.isEmpty

/-- Whether a host is a domain or a name below it. -/
def covers (domain host : List Char) : Bool :=
  host == domain || (domain.isSuffixOf host &&
    (host.take (host.length - domain.length)).getLast? == some '.')

/-- Whether calls may go to a host. -/
def permits (a : Allowlist) (host : String) : Bool :=
  let h := (dropEndChars '.' host.toList).map Char.toLower
  a.domains.any fun d => covers d h

end Allowlist

end Dialogue
