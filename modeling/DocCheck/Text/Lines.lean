/-!
# Lines of a text

A line ends with a line feed, or with a carriage return and a line feed, which are no part of it.
What follows the last line feed is a line unless it is empty.
-/

namespace DocCheck.Text

/-- A line without the carriage return at its end. -/
def dropReturn (line : List Char) : List Char :=
  if line.getLast? = some '\r' then line.dropLast else line

/-- The lines of a text; `line` holds the start of the first one, in reverse. -/
def linesFrom (line : List Char) : List Char → List (List Char)
  | [] => if line.isEmpty then [] else [line.reverse]
  | c :: cs =>
    if c = '\n' then dropReturn line.reverse :: linesFrom [] cs else linesFrom (c :: line) cs

def lines (text : String) : List String := (linesFrom [] text.toList).map String.ofList

end DocCheck.Text
