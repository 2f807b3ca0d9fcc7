import SessionGateway.Text.Pieces
import SessionGateway.Text.Width

/-! Tables drawn with lines. A blank stands on both sides of every cell, a column is as wide as the
widest line in it, and a row is as high as the highest of its cells. -/

namespace SessionGateway

structure Table where
  header : List String
  rows : List (List String) := []

namespace Table

open Text

structure Rule where
  left : Char
  fill : Char
  crossing : Char
  right : Char

namespace Rule

def top : Rule := ⟨'┌', '─', '┬', '┐'⟩

def belowHeader : Rule := ⟨'╞', '═', '╪', '╡'⟩

def betweenRows : Rule := ⟨'├', '╌', '┼', '┤'⟩

def bottom : Rule := ⟨'└', '─', '┴', '┘'⟩

def draw (r : Rule) (widths : List Nat) : String :=
  let spans := widths.map fun w => List.replicate (w + 2) r.fill
  .ofList (r.left :: List.intercalate [r.crossing] spans ++ [r.right])

end Rule

def cellLines (cell : String) : List String :=
  pieces '\n' cell

def cellWidth (cell : String) : Nat :=
  ((cellLines cell).map width).foldl max 0

def widths (t : Table) : List Nat :=
  t.rows.foldl (fun ws row => ws.zipWith max (row.map cellWidth)) (t.header.map cellWidth)

/-- The lines of one row; a cell that is not high enough ends with empty lines. -/
def drawRow (widths : List Nat) (row : List String) : List String :=
  let height := (row.map fun cell => (cellLines cell).length).foldl max 0
  (List.range height).map fun i =>
    let line := widths.zipWith (fun w cell => padTo w ((cellLines cell).getD i "")) row
    "│ " ++ " ┆ ".intercalate line ++ " │"

def drawRows (widths : List Nat) (rows : List (List String)) : List String :=
  List.intercalate [Rule.betweenRows.draw widths] (rows.map (drawRow widths))

def lines (t : Table) : List String :=
  Rule.top.draw t.widths :: drawRow t.widths t.header ++
    Rule.belowHeader.draw t.widths :: drawRows t.widths t.rows ++ [Rule.bottom.draw t.widths]

def render (t : Table) : String :=
  "\n".intercalate t.lines

end Table

end SessionGateway
