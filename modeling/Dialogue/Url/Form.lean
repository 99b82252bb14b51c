import Dialogue.Text.Blank
import Dialogue.Url.Percent

/-!
# Form encoding

Pairs of names and values as one line: an equals sign inside a pair, an ampersand between pairs, a
plus sign for a space. Letters, digits and four marks stand for themselves; every other byte is
percent encoded. Reading passes over empty pairs.
-/

namespace Dialogue

namespace Form

/-- Whether a character stands for itself. -/
def isPlain (c : Char) : Bool := c.isAlphanum || ['*', '-', '.', '_'].contains c

/-- A name or value. -/
def encode (s : List Char) : List Char :=
  s.flatMap fun c => if c = ' ' then ['+'] else if isPlain c then [c] else Percent.encodeChar c

/-- A pair. -/
def encodePair (p : String × String) : List Char :=
  encode p.1.toList ++ '=' :: encode p.2.toList

/-- Writes pairs behind what is there already. -/
def append (s : List Char) (pairs : List (String × String)) : List Char :=
  pairs.foldl (fun s p => s ++ (if s.isEmpty then [] else ['&']) ++ encodePair p) s

/-- The line of pairs. -/
def write (pairs : List (String × String)) : String := String.ofList (append [] pairs)

/-- The text of a name or value. -/
def decode (s : List Char) : String :=
  Utf8.lossyText (Percent.decode (Utf8.encode (s.map fun c => if c = '+' then ' ' else c)))

/-- The pair that a text writes; without an equals sign it is a name. -/
def decodePair (s : List Char) : String × String :=
  match Text.splitAt? '=' s with
  | some (name, value) => (decode name, decode value)
  | none => (decode s, "")

/-- The pairs of a line. -/
def read (s : String) : List (String × String) :=
  ((Text.fields (· == '&') s.toList).filter fun f => !f.isEmpty).map decodePair

end Form

end Dialogue
