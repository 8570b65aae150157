import CallSheet.Text.Split

/-!
# Lines

Two ways to read a text as lines.  `lines` cuts at every line feed, so a text
has one line more than it has line feeds, and drops one carriage return at the
end of each line.  `fieldLines` treats the line feed as the end of a line: no
empty line follows the last one, and only a carriage return that stands before
a line feed is dropped.
-/

namespace CallSheet.Text

/-- A line without the carriage return that may end it. -/
def dropCr (line : List Char) : List Char :=
  if line.getLast? = some '\r' then line.dropLast else line

/-- The lines of a document. -/
def lines (text : List Char) : List (List Char) := (splitOn '\n' text).map dropCr

/-- Reads parts as ended lines: the last part is a line only if it is not
empty, and keeps its carriage return. -/
def endedLines : List (List Char) → List (List Char)
  | [] => []
  | [last] => if last.isEmpty then [] else [last]
  | line :: rest => dropCr line :: endedLines rest

/-- The lines of a field. -/
def fieldLines (text : List Char) : List (List Char) := endedLines (splitOn '\n' text)

end CallSheet.Text
