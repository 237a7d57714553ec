import OneTable.Csv.Row

/-!
# Rows as lines of a file

A row is written as a line that ends in a line feed. A cell is quoted only when its
bytes would be misread otherwise, and quotes inside it are doubled. A line of no bytes
would not be a row, so a row that would come out empty is written as a quoted empty
cell.

* `OneTable.Csv.needsQuotes` – the cells that are quoted;
* `OneTable.Csv.line` – the line of a row.
-/

namespace OneTable.Csv

/-- A byte that may stand in quotes only. -/
def isSpecial (delimiter b : UInt8) : Bool :=
  b == delimiter || b == quote || endsRow b

/-- A cell has to be quoted. -/
def needsQuotes (delimiter : UInt8) (cell : Cell) : Bool :=
  cell.any (isSpecial delimiter)

/-- A cell in quotes; quotes inside it are doubled. -/
def quoted (cell : Cell) : List UInt8 :=
  quote :: (cell.flatMap fun b => if b = quote then [quote, quote] else [b]) ++ [quote]

/-- A cell as it is written. -/
def written (delimiter : UInt8) (cell : Cell) : List UInt8 :=
  if needsQuotes delimiter cell then quoted cell else cell

/-- The written cells with the delimiter between them. -/
def joined (delimiter : UInt8) : List Cell → List UInt8
  | [] => []
  | [cell] => written delimiter cell
  | cell :: rest => written delimiter cell ++ delimiter :: joined delimiter rest

/-- **The line of a row.** -/
def line (delimiter : UInt8) (cells : List Cell) : List UInt8 :=
  let bytes := joined delimiter cells
  (if bytes = [] then quoted [] else bytes) ++ [10]

end OneTable.Csv
