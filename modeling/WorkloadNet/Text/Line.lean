/-!
# Lines of a text

A line ends with a line feed, or with a carriage return and a line feed. The last line may lack
its ending; a carriage return at its end is then part of the line. A text that ends with a line
feed has no further, empty line after it.
-/

namespace WorkloadNet.Text

/-- A terminated line without the carriage return of its ending. -/
def withoutReturn (line : List Char) : List Char :=
  if line.getLast? = some '\r' then line.dropLast else line

/-- The lines of a text whose pieces between line feeds are given: each piece but the last was
terminated, and an empty last piece is no line. -/
def linesOfPieces : List (List Char) → List (List Char)
  | [] => []
  | [last] => if last = [] then [] else [last]
  | piece :: next :: rest => withoutReturn piece :: linesOfPieces (next :: rest)

/-- The lines of a text. -/
def lines (text : List Char) : List (List Char) :=
  linesOfPieces (text.splitOnP (· = '\n'))

end WorkloadNet.Text
