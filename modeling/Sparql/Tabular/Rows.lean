/-!
# Delimited text

Rows of cells, one row a line, read character by character. In a dialect with quotes a cell that begins with
a quote runs to the next single one, over separators and line ends; two quotes in it are one. Nothing after
the closing quote is an error: it belongs to the cell as it stands.
-/

namespace Sparql.Tabular

/-- What separates cells, and whether quotes enclose them. -/
structure Dialect where
  separator : Char
  quotes : Bool
deriving DecidableEq, Repr

/-- Commas between cells, and quotes. -/
def commas : Dialect := ⟨',', true⟩

/-- Tabs between cells, and no quotes. -/
def tabs : Dialect := ⟨'\t', false⟩

/-- The most characters of a cell. -/
def maxCell : Nat := 131072

/-- Where the reading stands. -/
inductive Place where
  | rowStart
  | cellStart
  | inCell
  | inQuotes
  /-- Behind a quote inside a quoted cell. -/
  | afterQuote
  /-- Behind a carriage return or a line feed that ended the row. -/
  | atLineEnd
deriving DecidableEq, Repr

/-- Rows, cells and characters read so far, each in reverse. -/
structure Reading where
  rows : List (List (List Char)) := []
  cells : List (List Char) := []
  cell : List Char := []
  length : Nat := 0
  place : Place := .rowStart
deriving Repr

namespace Reading

/-- The reading with the open cell complete. -/
def closeCell (reading : Reading) (place : Place) : Reading :=
  { reading with cells := reading.cell.reverse :: reading.cells, cell := [], length := 0, place }

/-- The reading with one more character in the open cell. -/
def push (reading : Reading) (c : Char) (place : Place) : Option Reading :=
  if maxCell ≤ reading.length then none
  else some { reading with cell := c :: reading.cell, length := reading.length + 1, place }

/-- A carriage return or a line feed. -/
def isLineEnd (c : Char) : Bool := c = '\n' || c = '\r'

/-- The reading after a character at the start of a cell. -/
def startCell (dialect : Dialect) (reading : Reading) (c : Char) : Option Reading :=
  if isLineEnd c then some (reading.closeCell .atLineEnd)
  else if c = '"' && dialect.quotes then some { reading with place := .inQuotes }
  else if c = dialect.separator then some (reading.closeCell .cellStart)
  else reading.push c .inCell

/-- The reading after one more character. A carriage return that ends a row must be followed by the end of
the line. -/
def step (dialect : Dialect) (reading : Reading) (c : Char) : Option Reading :=
  match reading.place with
  | .rowStart => if isLineEnd c then some { reading with place := .atLineEnd } else startCell dialect reading c
  | .cellStart => startCell dialect reading c
  | .inCell =>
    if isLineEnd c then some (reading.closeCell .atLineEnd)
    else if c = dialect.separator then some (reading.closeCell .cellStart)
    else reading.push c .inCell
  | .inQuotes => if c = '"' then some { reading with place := .afterQuote } else reading.push c .inQuotes
  | .afterQuote =>
    if c = '"' then reading.push c .inQuotes
    else if c = dialect.separator then some (reading.closeCell .cellStart)
    else if isLineEnd c then some (reading.closeCell .atLineEnd)
    else reading.push c .inCell
  | .atLineEnd => if isLineEnd c then some reading else none

/-- The reading with the open row complete. A row without cells is none. -/
def closeRow (reading : Reading) : Reading :=
  if reading.cells.isEmpty then { reading with place := .rowStart }
  else { reading with rows := reading.cells.reverse :: reading.rows, cells := [], place := .rowStart }

/-- The reading at the end of a line, which ends the row unless a quoted cell is open. -/
def endLine (reading : Reading) : Reading :=
  match reading.place with
  | .inQuotes => reading
  | .rowStart | .atLineEnd => reading.closeRow
  | .cellStart | .inCell | .afterQuote => (reading.closeCell .rowStart).closeRow

/-- The rows at the end of the text, where an open quoted cell ends too. -/
def finish (reading : Reading) : List (List (List Char)) :=
  let last := reading.endLine
  let closed := if last.place = .inQuotes then (last.closeCell .rowStart).closeRow else last
  closed.rows.reverse

/-- Reads on to the end of the text. -/
def run (dialect : Dialect) (reading : Reading) : List Char → Option (List (List (List Char)))
  | [] => some reading.finish
  | c :: rest =>
    match reading.step dialect c with
    | some next => (if c = '\n' then next.endLine else next).run dialect rest
    | none => none

end Reading

/-- The rows of a text. -/
def rows? (dialect : Dialect) (text : List Char) : Option (List (List (List Char))) :=
  Reading.run dialect {} text

end Sparql.Tabular
