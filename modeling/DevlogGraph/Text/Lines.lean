/-! Lines of a text: each ends at a line feed, and a carriage return just before it belongs to
the ending. -/
namespace DevlogGraph.Text

/-- Cut at every mark; `n` marks give `n + 1` pieces. -/
def pieces (mark : Char) : List Char → List (List Char)
  | [] => [[]]
  | c :: rest =>
      if c = mark then [] :: pieces mark rest
      else match pieces mark rest with
        | [] => [[c]]
        | piece :: later => (c :: piece) :: later

/-- A finished line without the carriage return of its ending. -/
def withoutReturn (line : List Char) : List Char :=
  if line.getLast? = some '\r' then line.dropLast else line

/-- The finished pieces lose their carriage return; what follows the last line feed is a line only
if it is not empty, and keeps a carriage return. -/
def linesOfPieces : List (List Char) → List (List Char)
  | [] => []
  | [last] => if last = [] then [] else [last]
  | piece :: later => withoutReturn piece :: linesOfPieces later

def lines (text : List Char) : List (List Char) := linesOfPieces (pieces '\n' text)

end DevlogGraph.Text
