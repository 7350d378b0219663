/-
  InfraEvidence — tables with a border.

  * `Table`: a header and rows of cells; a cell may have several lines;
  * `Table.widths`: a column is as wide as its widest line;
  * `Table.render`: the header and the rows between borders, with a double
    line below the header.  A cell has one blank on each side, and columns are
    one blank apart.
-/
import InfraEvidence.Report.Order
import InfraEvidence.Text.Width

namespace InfraEvidence

open Text

/-- A table. -/
structure Table where
  /-- The names of the columns -/
  header : List String
  /-- The rows, with a cell for each column -/
  rows : List (List String)

namespace Table

/-- The lines of a cell. -/
def cellLines (cell : String) : List (List Char) := cell.toList.splitOn '\n'

/-- The width of a cell: that of its widest line. -/
def cellWidth (cell : String) : Nat := ((cellLines cell).map width).foldl max 0

/-- The widths of the columns. -/
def widths (t : Table) : List Nat :=
  t.rows.foldl (fun ws row => List.zipWith max ws (row.map cellWidth)) (t.header.map cellWidth)

/-- A horizontal border. -/
def border (left line right : Char) (ws : List Nat) : List Char :=
  left :: List.intercalate [line] (ws.map fun w => List.replicate (w + 2) line) ++ [right]

/-- One line of a row. -/
def rowLine (ws : List Nat) (cells : List (List Char)) : List Char :=
  '│' :: List.intercalate [' ']
    (List.zipWith (fun w cell => ' ' :: padTo w cell ++ [' ']) ws cells) ++ ['│']

/-- The lines of a row: as many as its highest cell has. -/
def rowLines (ws : List Nat) (row : List String) : List (List Char) :=
  let cells := row.map cellLines
  let height := (cells.map List.length).foldl max 0
  (List.range height).map fun i => rowLine ws (cells.map fun ls => ls.getD i [])

/-- The table as text, without a line feed at its end. -/
def render (t : Table) : String :=
  let ws := t.widths
  String.ofList (List.intercalate ['\n']
    ([border '┌' '─' '┐' ws] ++ rowLines ws t.header ++ [border '╞' '═' '╡' ws] ++
      t.rows.flatMap (rowLines ws) ++ [border '└' '─' '┘' ws]))

end Table

end InfraEvidence
