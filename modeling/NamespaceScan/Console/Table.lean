import NamespaceScan.Console.Narrowing
import NamespaceScan.Console.Tags
import NamespaceScan.Console.Wrap

/-!
# Tables

A table has a title, a header line and rows of cells, drawn with lines. A
column is as wide as the widest line in it, unless the table would be wider
than the console: then the widest columns are narrowed. Titles, headers and
cells are marked text.
-/

namespace NamespaceScan.Console

/-- A column of a table. -/
structure Column where
  header : Text
  /-- The style of the cells. -/
  style : Text := []

/-- A table; each row has one cell for each column. -/
structure Table where
  title : Text := []
  columns : List Column
  rows : List (List Text)
  /-- A line is drawn between rows. -/
  ruled : Bool := false

/-- Line ends for the measuring of a cell. -/
def endsLine (c : CodePoint) : Bool :=
  [0x0A, 0x1C, 0x1D, 0x1E, 0x85, 0x2028, 0x2029].contains c

/-- The width of a text of several lines. -/
def measure (t : Text) : Nat :=
  ((t.splitOnP endsLine).map Text.columns).foldl max 0

/-- What is printed of a marked text. -/
def printed (t : Text) : Text := (Markup.shown t).filter fun c => !isDropped c

/-- Spaces at the end up to a width. -/
def padded (width : Nat) (t : Text) : Text := t ++ Text.repeated (width - Text.columns t) space

/-- A line that fills the width of its cell. A joiner at the end of the line
takes one of the spaces, which is made up for. -/
def filled (width : Nat) (line : Text) : Text := padded width (padded width line)

/-- A line in the middle of a width; an odd space goes to the right. -/
def centered (width : Nat) (line : Text) : Text :=
  let line := trimEnd line
  padded width (Text.repeated ((width - Text.columns line) / 2) space ++ line)

/-- The pieces of a drawn line: left end, filling, crossing, right end. -/
structure Rule where
  left : Text
  fill : CodePoint
  cross : Text
  right : Text

namespace Rule

def top : Rule := ⟨"┏", 0x2501, "┳", "┓"⟩
def underHeader : Rule := ⟨"┡", 0x2501, "╇", "┩"⟩
def between : Rule := ⟨"├", 0x2500, "┼", "┤"⟩
def bottom : Rule := ⟨"└", 0x2500, "┴", "┘"⟩

/-- Draw a line across columns of the given widths. -/
def draw (rule : Rule) (widths : List Nat) : Text :=
  Text.concat
    [rule.left, Text.joinWith rule.cross (widths.map fun width => Text.repeated width rule.fill),
      rule.right]

end Rule

/-- The spaces on both sides of a cell. -/
def cellPadding : Nat := 2

/-- The lines of a cell in a column: none if there is no room for a text. -/
def cellLines (width : Nat) (cell : Text) : List Text :=
  let room := width - cellPadding
  if room = 0 then []
  else (wrap room cell).map fun line => Text.concat [[space], filled room line, [space]]

/-- How short cells are filled up with blank lines. -/
inductive Standing where
  /-- Below the text. -/
  | top
  /-- Above the text. -/
  | bottom

/-- The lines of a cell in a row of the given height. -/
def Standing.lines (standing : Standing) (width height : Nat) (lines : List Text) : List Text :=
  let blank := List.replicate (height - lines.length) (Text.repeated width space)
  match standing with
  | .top => lines ++ blank
  | .bottom => blank ++ lines

/-- The lines of a row between bars. -/
def rowLines (bar : Text) (standing : Standing) (widths : List Nat) (cells : List Text) :
    List Text :=
  let cells := List.zipWith cellLines widths cells
  let height := (cells.map List.length).foldl max 1
  let columns := List.zipWith (fun width lines => standing.lines width height lines) widths cells
  (List.range height).map fun i =>
    Text.concat [bar, Text.joinWith bar (columns.map fun lines => (lines.drop i).headD []), bar]

namespace Table

/-- The width that each column would like to have, padding included. -/
def naturalWidths (cells : List (List Text)) : List Nat :=
  match cells with
  | [] => []
  | first :: rest =>
    (rest.foldl (fun widths row => List.zipWith max widths (row.map measure))
      (first.map measure)).map (· + cellPadding)

/-- The lines of a table on a console of the given width. -/
def lines (table : Table) (width : Nat) : List Text :=
  let headers := table.columns.map fun column => printed column.header
  let rows := table.rows.map fun row => row.map printed
  let bars := headers.length + 1
  let widths := Narrowing.fit (width - bars) (naturalWidths (headers :: rows))
  let total := widths.sum + bars
  let title :=
    if table.title = [] then [] else (wrap total (printed table.title)).map (centered total)
  let drawn := rows.map (rowLines "│" .top widths)
  let separator := if table.ruled then [Rule.between.draw widths] else []
  title ++ Rule.top.draw widths :: rowLines "┃" .bottom widths headers ++
    [Rule.underHeader.draw widths] ++ (drawn.intersperse separator).flatten ++
    [Rule.bottom.draw widths]

/-- The texts of a column, from the header down. -/
def columnTexts (table : Table) (index : Nat) (column : Column) : List Text :=
  column.header :: table.rows.map fun row => row[index]?.getD []

/-- Check the style and the texts of a column. -/
def checkColumn (table : Table) (index : Nat) (column : Column) : Except Fault Unit := do
  if let some error := Style.error? column.style then
    throw (.unknownStyle column.style error.message)
  (table.columnTexts index column).forM Markup.check

/-- Check all texts of a table: column by column, and then the title. -/
def check (table : Table) : Except Fault Unit := do
  table.columns.zipIdx.forM fun (column, index) => table.checkColumn index column
  Markup.check table.title

/-- A table as it is printed: nothing without rows, an empty line without
columns. -/
def toText (table : Table) (width : Nat) : Except Fault Text := do
  if table.rows = [] then return []
  if table.columns.isEmpty then return [0x0A]
  table.check
  return (table.lines width).flatMap (· ++ [0x0A])

end Table

end NamespaceScan.Console
