import OneTable.Csv.Row

/-!
# A header and the rows below it

The first row of a file is its header, and every other row has to have as many cells.
A row that has not is a fault in its place: the rows behind it are read all the same.

* `OneTable.Csv.Table` – the header and the rows;
* `OneTable.Csv.Table.ofBytes` – the table of a file;
* `OneTable.Csv.RowFault` – a row of another length, with its wording.
-/

namespace OneTable.Csv

/-- A row whose number of cells is not that of the header. -/
structure RowFault where
  /-- The number of the row; the header has the number zero. -/
  number : Nat
  start : Mark
  found : Nat
  expected : Nat
deriving DecidableEq

/-- The wording of a fault. -/
def RowFault.message (f : RowFault) : String :=
  s!"CSV error: record {f.number} (line: {f.start.line}, byte: {f.start.byte}): " ++
    s!"found record with {f.found} fields, but the previous record has {f.expected} fields"

/-- A header and the rows below it. -/
structure Table where
  header : List Cell
  rows : List (Except RowFault (List Cell))

/-- Checks the length of the row of a number. -/
def checkRow (expected : Nat) (row : Row) (number : Nat) : Except RowFault (List Cell) :=
  if row.cells.length = expected then .ok row.cells
  else .error ⟨number, row.start, row.cells.length, expected⟩

/-- **The table of a file.** An empty file has an empty header. -/
def Table.ofBytes (delimiter : UInt8) (bytes : List UInt8) : Table :=
  match rowsOf delimiter bytes with
  | [] => ⟨[], []⟩
  | header :: below =>
    ⟨header.cells, (below.zipIdx 1).map fun (row, number) =>
      checkRow header.cells.length row number⟩

end OneTable.Csv
