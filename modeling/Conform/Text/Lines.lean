/-!
Texts cut into lines.
-/

namespace Conform.Text

/-- A line without the carriage return before its line feed. -/
def dropReturn (line : List Char) : List Char :=
  if line.getLast? = some '\r' then line.dropLast else line

/-- The lines that end after a line so far, whose characters are given last first. What follows
the last line feed is a line unless it is empty. -/
def linesFrom (line : List Char) : List Char → List (List Char)
  | [] => if line.isEmpty then [] else [line.reverse]
  | c :: cs =>
    if c = '\n' then dropReturn line.reverse :: linesFrom [] cs else linesFrom (c :: line) cs

/-- The lines of a text, each without its line feed and a carriage return before that. -/
def lines (s : String) : List String := (linesFrom [] s.toList).map String.ofList

end Conform.Text
