/-!
# Lines of a text

A line ends with a newline, or with a carriage return and a newline; the end is no part of the line.
What follows the last newline is a line of its own unless it is empty, and a carriage return that no
newline follows is an ordinary character.
-/

namespace Pipeline.Text

/-- A line as collected in reverse up to its newline, without the carriage return before that. -/
def endLine : List Char → List Char
  | '\r' :: rest => rest.reverse
  | acc => acc.reverse

/-- The lines of `cs`, the one under way collected in reverse in `acc`. -/
def splitLines (acc : List Char) : List Char → List (List Char)
  | [] => if acc.isEmpty then [] else [acc.reverse]
  | c :: cs => if c = '\n' then endLine acc :: splitLines [] cs else splitLines (c :: acc) cs

/-- The lines of a text in order. -/
def lines (s : String) : List String :=
  (splitLines [] s.toList).map String.ofList

end Pipeline.Text
