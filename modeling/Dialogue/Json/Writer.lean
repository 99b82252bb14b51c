import Dialogue.Json.Basic

/-!
# Writing JSON

Compact text: no spaces, members in the order of their keys, and in strings only the quote, the
backslash and the control characters below U+0020 escaped.
-/

namespace Dialogue

namespace Json

/-- Lower-case hexadecimal digit of a number below 16. -/
def hexDigit (n : Nat) : Char := Nat.digitChar n

/-- The characters that stand for `c` inside a string. -/
def escapeChar (c : Char) : List Char :=
  if c = '"' then ['\\', '"']
  else if c = '\\' then ['\\', '\\']
  else if c.toNat = 8 then ['\\', 'b']
  else if c.toNat = 9 then ['\\', 't']
  else if c.toNat = 10 then ['\\', 'n']
  else if c.toNat = 12 then ['\\', 'f']
  else if c.toNat = 13 then ['\\', 'r']
  else if c.toNat < 0x20 then
    ['\\', 'u', '0', '0', hexDigit (c.toNat / 16), hexDigit (c.toNat % 16)]
  else [c]

/-- A string in quotes. -/
def quote (s : String) : String := String.ofList ('"' :: s.toList.flatMap escapeChar ++ ['"'])

mutual

/-- The text of a value. -/
def render : Json → String
  | .null => "null"
  | .bool true => "true"
  | .bool false => "false"
  | .int n => toString n
  | .float x => x.text
  | .str s => quote s
  | .arr items => "[" ++ renderItems items ++ "]"
  | .obj members => "\x7b" ++ renderMembers members ++ "\x7d"

/-- The texts of values with commas between them. -/
def renderItems : List Json → String
  | [] => ""
  | [x] => render x
  | x :: y :: r => render x ++ "," ++ renderItems (y :: r)

/-- The texts of members with commas between them. -/
def renderMembers : List (String × Json) → String
  | [] => ""
  | [(k, x)] => quote k ++ ":" ++ render x
  | (k, x) :: y :: r => quote k ++ ":" ++ render x ++ "," ++ renderMembers (y :: r)

end

end Json

end Dialogue
