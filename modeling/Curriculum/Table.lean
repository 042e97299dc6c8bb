import Curriculum.Text.Width

/-! # Tables

A table is drawn with lines around it, between its columns and below its first row. A column is as
wide as its widest cell, and a cell of several lines makes its row higher. -/

namespace Curriculum.Table

/-- The characters of a horizontal line: at the left end, between columns, and at the right end. -/
structure Rule where
  left : Char
  middle : Char
  right : Char

def top : Rule := ⟨'╭', '┬', '╮'⟩

def below : Rule := ⟨'├', '┼', '┤'⟩

def bottom : Rule := ⟨'╰', '┴', '╯'⟩

def cellLines (cell : Text) : List Text := Text.split '\n' cell

def cellWidth (cell : Text) : Nat := ((cellLines cell).map Text.width).foldl max 0

def widths : List (List Text) → List Nat
  | [] => []
  | [row] => row.map cellWidth
  | row :: rows => List.zipWith max (row.map cellWidth) (widths rows)

def Rule.draw (r : Rule) (ws : List Nat) : Text :=
  r.left :: Text.join [r.middle] (ws.map fun w => List.replicate (w + 2) '─') ++ [r.right]

/-- A text in a column, with a space on both sides. -/
def pad (width : Nat) (t : Text) : Text :=
  ' ' :: t ++ List.replicate (width - t.width + 1) ' '

/-- The lines of a row. -/
def rowLines (ws : List Nat) (row : List Text) : List Text :=
  let cells := row.map cellLines
  let height := (cells.map List.length).foldl max 0
  (List.range height).map fun i =>
    '│' :: Text.join ['│'] (List.zipWith (fun w (lines : List Text) => pad w (lines[i]?.getD []))
      ws cells) ++ ['│']

/-- The lines of a table, whose first row is its head. -/
def draw (head : List Text) (rows : List (List Text)) : List Text :=
  let ws := widths (head :: rows)
  [top.draw ws] ++ rowLines ws head ++ [below.draw ws] ++ rows.flatMap (rowLines ws) ++
    [bottom.draw ws]

end Curriculum.Table
