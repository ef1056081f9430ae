import Hexaglyph.Text.Symbol
set_option autoImplicit false

/-! Text in columns. Lines are cut into cells by tabs; cells that stand below each other and are
followed by a tab are padded to one width, and a line without such a cell ends the column. -/
namespace Hexaglyph.Columns

/-- The blanks between a column and the next. -/
def padding : Nat := 2

/-- Tabs of both directions end a cell. -/
def endsCell (b : UInt8) : Bool :=
  b == 0x09 || b == 0x0B

/-- A form feed ends a line and all columns with it. -/
def formFeed : UInt8 := 0x0C

/-- A line by its cells; the last one is in no column. -/
abbrev Row := List Text

def rows (t : Text) : List Row :=
  (Text.lines t).map (Text.pieces endsCell)

/-- The number of characters of a cell. -/
def width (cell : Text) : Nat :=
  (Text.symbols cell).length

/-- The width of a row's cell in a column, if it has one there. -/
def cellWidth? (column : Nat) (row : Row) : Option Nat :=
  row.dropLast[column]?.map width

/-- The widest of the cells before the first row that has none. -/
def runWidth : List (Option Nat) → Nat
  | some w :: rest => max w (runWidth rest)
  | _ => 0

/-- The width of the column at each row, where the run that goes on has this width. -/
def spread : Nat → List (Option Nat) → List Nat
  | _, [] => []
  | _, none :: rest => 0 :: spread (runWidth rest) rest
  | run, some _ :: rest => run :: spread run rest

/-- The widths of all columns at each row. -/
def columnWidths (rows : List Row) : List (List Nat) :=
  let count := (rows.map List.length).foldl max 0
  (List.range count).map fun column =>
    let cells := rows.map (cellWidth? column)
    spread (runWidth cells) cells

def pad (cell : Text) (columnWidth : Nat) : Text :=
  cell ++ List.replicate (columnWidth + padding - width cell) 0x20

/-- A row whose columns have these widths. -/
def alignRow (widths : List Nat) (row : Row) : Text :=
  (List.zipWith pad row.dropLast widths).flatten ++ row.getLastD []

def alignRows (rows : List Row) : List Text :=
  let widths := columnWidths rows
  rows.zipIdx.map fun (row, index) => alignRow (widths.map fun column => column.getD index 0) row

def align (t : Text) : Text :=
  let blocks := Text.pieces (· == formFeed) t
  Text.join [Text.lineFeed] (blocks.flatMap fun block => alignRows (rows block))

end Hexaglyph.Columns
