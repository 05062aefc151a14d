import Conform.Text.Blank

/-!
Tables of texts in columns.
-/

namespace Conform.Table

/-- A cell with spaces after it. -/
def padded (width : Nat) (cell : String) : String :=
  cell ++ String.ofList (List.replicate (width - cell.length) ' ')

/-- Cells padded to the widths of their columns; cells beyond the last column stay as they are. -/
def paddedCells : List Nat → List String → List String
  | _, [] => []
  | [], cells => cells
  | w :: ws, cell :: cells => padded w cell :: paddedCells ws cells

/-- The width of the column at an index: that of its widest cell. -/
def width (rows : List (List String)) (index : Nat) (header : String) : Nat :=
  rows.foldl (fun w row => max w ((row[index]?).elim 0 String.length)) header.length

/-- The widths of the columns that have headers. -/
def widths (headers : List String) (rows : List (List String)) : List Nat :=
  headers.mapIdx (width rows)

def headerLine (headers : List String) (widths : List Nat) : String :=
  String.intercalate " │ " (paddedCells widths headers)

def ruler (widths : List Nat) : String :=
  String.intercalate "─┼─" (widths.map fun w => String.ofList (List.replicate w '─'))

/-- A row without white space at its end. -/
def rowLine (widths : List Nat) (cells : List String) : String :=
  let line := String.intercalate " │ " (paddedCells widths cells)
  String.ofList (Text.dropTrailing Text.isBlank line.toList)

end Conform.Table
