import Dialogue.Text.Blank

/-!
# Error reports

A report shows the text of an error as a bullet on a line of its own. Later lines of the text
stand behind a bar, so a report inside a report stays readable.
-/

namespace Dialogue

namespace Text

/-- The lines of a text; a line feed at the end opens no line. -/
def lines (s : List Char) : List (List Char) :=
  let l := fields (· == '\n') s
  if l.getLast? == some [] then l.dropLast else l

/-- The lines below a bullet. -/
def barred (l : List (List Char)) : List Char :=
  l.flatMap fun line => [' ', '│', ' '] ++ line ++ ['\n']

/-- The report of an error's text. -/
def report (text : String) : String :=
  match lines text.toList with
  | [] => "\n ● \n"
  | first :: rest =>
    String.ofList (['\n', ' ', '●', ' '] ++ first ++ ['\n'] ++ barred rest)

end Text

end Dialogue
