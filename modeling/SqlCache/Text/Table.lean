import SqlCache.Text.Wrap

/-!
Tables drawn with plain characters. A column is as wide as its widest line, up to a limit at which
lines are broken; a cell may have several lines, and a row is as high as its highest cell. Every
cell has a blank on both sides.
-/

set_option autoImplicit false

namespace SqlCache.Text

/-- A table. All rows have as many cells as the header. -/
structure Table where
  header : List String
  rows : List (List String)

namespace Table

/-- The most columns that a column takes, with or without blanks. -/
def columnLimit : Nat := 65535

/-- The lines of a cell. -/
def lines (cell : String) : List String := cell.splitOn "\n"

/-- The columns that a cell takes without its blanks. -/
def cellWidth (cell : String) : Nat := min (((lines cell).map width).foldl max 0) columnLimit

/-- The columns that a table's columns take without blanks. -/
def widths (t : Table) : List Nat :=
  (t.header :: t.rows).foldl (fun found row => List.zipWith max found (row.map cellWidth))
    (t.header.map fun _ => 0)

/-- A line of a cell with its blanks, filled up to a width. -/
def fill (columns : Nat) (line : String) : String :=
  " " ++ line ++ "".pushn ' ' (columns - width line) ++ " "

/-- The lines of a row. -/
def rowLines (widths : List Nat) (row : List String) : List String :=
  let cells := List.zipWith (fun columns cell => (lines cell).flatMap (wrap columns)) widths row
  let height := (cells.map List.length).foldl max 0
  (List.range height).map fun i =>
    "|" ++ "|".intercalate
      (List.zipWith (fun columns cell => fill columns (cell.getD i "")) widths cells) ++ "|"

/-- A rule between rows: its ends, its crossings and what it is drawn with. -/
def rule (widths : List Nat) (stop crossing : String) (stroke : Char) : String :=
  let strokes := widths.map fun columns => "".pushn stroke (min (columns + 2) columnLimit)
  stop ++ crossing.intercalate strokes ++ stop

/-- The lines of a table. -/
def render (t : Table) : List String :=
  let widths := t.widths
  let border := rule widths "+" "+" '-'
  let body := (t.rows.map (rowLines widths)).intersperse [rule widths "|" "+" '-']
  [border] ++ rowLines widths t.header ++ [rule widths "+" "=" '='] ++ body.flatten ++ [border]

end Table

end SqlCache.Text
