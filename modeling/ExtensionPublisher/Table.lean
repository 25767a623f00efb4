import ExtensionPublisher.Text.Parts
import ExtensionPublisher.Text.Width

/-!
# Tables of text

A table has a header and rows of cells, a cell one or more lines. Every column is as wide as
the widest line in it, with one blank on either side; a row is as high as its highest cell.
Borders are drawn around the table, below the header and between the rows.
-/
namespace ExtensionPublisher.Table

/-- The lines of a cell. A text with line breaks makes its whole row higher. -/
abbrev Cell := List (List Char)

/-- The cell that shows a text. -/
def cell (text : String) : Cell := Text.parts '\n' text.toList

/-- The width of a cell, which is that of its widest line. -/
def cellWidth (cell : Cell) : Nat := (cell.map Text.width).foldl max 0

/-- The widths of the columns, each that of its widest cell. -/
def columnWidths (columns : Nat) (rows : List (List Cell)) : List Nat :=
  (List.range columns).map fun column =>
    (rows.map fun row => cellWidth (row.getD column [])).foldl max 0

/-- The marks of a rule: at its left end, along a column, between columns, and at its right
end. -/
structure Rule where
  left : Char
  along : Char
  between : Char
  right : Char

/-- The border above the header. -/
def Rule.top : Rule := ⟨'╭', '─', '┬', '╮'⟩

/-- The rule below the header. -/
def Rule.header : Rule := ⟨'╞', '═', '╪', '╡'⟩

/-- The rule between two rows. -/
def Rule.row : Rule := ⟨'├', '╌', '┼', '┤'⟩

/-- The border below the last row. -/
def Rule.bottom : Rule := ⟨'╰', '─', '┴', '╯'⟩

/-- A rule across columns, each with room for a blank on either side of its text. -/
def Rule.draw (rule : Rule) (widths : List Nat) : List Char :=
  let along := widths.map fun width => List.replicate (width + 2) rule.along
  rule.left :: Text.join rule.between along ++ [rule.right]

/-- A line of a cell in its column, with a blank on either side. What is narrower
than the column is filled up at the end. -/
def padded (width : Nat) (line : List Char) : List Char :=
  ' ' :: line ++ List.replicate (width - Text.width line + 1) ' '

/-- The lines of a row, as many as its highest cell has. Cells with fewer lines are
blank below them. -/
def rowLines (widths : List Nat) (row : List Cell) : List (List Char) :=
  let height := (row.map List.length).foldl max 1
  (List.range height).map fun index =>
    let cells := List.zipWith (fun width cell => padded width (cell.getD index [])) widths row
    '│' :: Text.join '┆' cells ++ ['│']

/-- The lines of the rows, with rules between them but none behind the last. -/
def bodyLines (widths : List Nat) : List (List Cell) → List (List Char)
  | [] => []
  | [row] => rowLines widths row
  | row :: rest => rowLines widths row ++ Rule.row.draw widths :: bodyLines widths rest

/-- The lines of a table: a border, the header, a rule, the rows and another border.
-/
def render (header : List String) (rows : List (List String)) : List String :=
  let headerCells := header.map cell
  let rowCells := rows.map (·.map cell)
  let widths := columnWidths header.length (headerCells :: rowCells)
  let lines := Rule.top.draw widths :: rowLines widths headerCells ++
    Rule.header.draw widths :: bodyLines widths rowCells ++ [Rule.bottom.draw widths]
  lines.map String.ofList

end ExtensionPublisher.Table
