import MediaLanguage.Console.Markup

/-!
# Tables on a terminal

A table has a title, headings and rows, drawn with lines around and between its columns. A column is as wide as its
widest cell, or has a fixed width; a cell may take several lines. If the table would be wider than the terminal, the
widest column gives way, and its cells go on in further lines.
-/

namespace MediaLanguage.Console

/-- A column: its heading, and its width if that is fixed. -/
structure Column where
  heading : String
  fixedWidth : Option Nat := none

/-- A table with texts, or with what is shown of them. -/
structure Table (α : Type) where
  title : α
  columns : List Column
  rows : List (List α)

/-! ## Cells -/

/-- The width of a cell: that of its widest line. -/
def cellWidth (cell : List Char) : Nat :=
  ((Text.splitWhere Text.endsLine cell).map Text.width).foldl max 0

/-- The text of a line at the left end of a field. -/
def alignLeft (size : Nat) (line : List Char) : List Char :=
  line ++ List.replicate (size - Text.width line) ' '

/-- A line in the middle of a field; an odd space goes to the right. -/
def center (size : Nat) (line : List Char) : List Char :=
  let text := Text.stripRight line
  let left := (size - Text.width text) / 2
  alignLeft size (List.replicate left ' ' ++ text)

/-- The lines of a cell in a field. -/
def fieldLines (size : Nat) (cell : List Char) : List (List Char) :=
  (Text.splitLines cell).flatMap (Text.wrap .ellipsis size)

/-- The line with a number of a cell in a field, or an empty one. A joiner at the end of the line hides the first space
after it, so that one more is needed. -/
def fieldLine (size : Nat) (cell : List Char) (i : Nat) : List Char :=
  alignLeft size (alignLeft size ((fieldLines size cell)[i]?.getD []))

/-! ## Rows -/

/-- Pieces between the ends of a line and with a mark between each two. -/
def ruled (left middle right : Char) (pieces : List (List Char)) : String :=
  String.ofList (left :: (List.intercalate [middle] pieces) ++ [right]) ++ "\n"

/-- A line of a row: a space stands on either side of each cell. -/
def rowLine (sizes : List Nat) (cells : List (List Char)) (i : Nat) : String :=
  ruled '│' '│' '│' ((sizes.zip cells).map fun (size, cell) => ' ' :: fieldLine size cell i ++ [' '])

/-- The lines of a row. -/
def rowText (sizes : List Nat) (cells : List (List Char)) : String :=
  let height := ((sizes.zip cells).map fun (size, cell) => (fieldLines size cell).length).foldl max 1
  String.join ((List.range height).map (rowLine sizes cells))

/-- A line between rows. -/
def rule (left middle right : Char) (sizes : List Nat) : String :=
  ruled left middle right (sizes.map fun size => List.replicate (size + 2) '─')

namespace Table

/-! ## Columns -/

/-- The width of a table whose columns have some widths. -/
def widthOf (sizes : List Nat) : Nat :=
  sizes.foldr (fun size n => size + 3 + n) 1

/-- The headings. -/
def headings (t : Table (List Char)) : List (List Char) :=
  t.columns.map fun c => c.heading.toList

/-- The widths of the columns where nothing limits them. -/
def fullSizes (t : Table (List Char)) : List Nat :=
  t.columns.zipIdx.map fun (c, i) =>
    c.fixedWidth.getD (((t.headings :: t.rows).map fun cells => cellWidth (cells[i]?.getD [])).foldl max 0)

/-- The widths of the columns on a terminal: what is too much is taken from the widest. -/
def sizes (t : Table (List Char)) : List Nat :=
  let excess := widthOf t.fullSizes - Text.terminalWidth
  let widest := t.fullSizes.foldl max 0
  t.fullSizes.map fun size => if size = widest then size - excess else size

/-! ## The whole table -/

/-- The lines of the title. -/
def titleText (t : Table (List Char)) : String :=
  let size := widthOf t.sizes
  let lines := (Text.splitLines t.title).flatMap (Text.wrap .fold size)
  String.join (lines.map fun line => String.ofList (center size line) ++ "\n")

/-- The table as text. -/
def draw (t : Table (List Char)) : String :=
  t.titleText ++ rule '╭' '┬' '╮' t.sizes ++ rowText t.sizes t.headings
    ++ rule '├' '┼' '┤' t.sizes ++ String.join (t.rows.map (rowText t.sizes)) ++ rule '╰' '┴' '╯' t.sizes

/-- What is shown of the texts of a table, unless the tags of one are faulty. -/
def markup? (t : Table String) : Option (Table (List Char)) := do
  return { title := ← Console.markup? t.title, columns := t.columns, rows := ← t.rows.mapM (·.mapM Console.markup?) }

/-- A table of texts as text, unless the tags of one are faulty. -/
def render? (t : Table String) : Option String :=
  t.markup?.map draw

end Table

end MediaLanguage.Console
