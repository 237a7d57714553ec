/-!
# Rows of delimited cells

A delimited file is a sequence of bytes, and it is taken apart into rows and cells
before any byte is read as text. Cells are separated by the delimiter and rows by a
line feed or a carriage return; runs of those between rows are skipped, so there are
no rows of blank lines. A cell that begins with a quote ends its quotation at the next
quote, a doubled quote inside is a quote, and bytes behind the closing quote belong to
the cell.

The cursor remembers where in the file it stands, because a row that does not fit is
reported by the place where reading it began. A carriage return ends a row at once, so
a line feed behind it is skipped only when the next row is read, and counts to that row.

* `OneTable.Csv.Cursor` – what is known between two bytes;
* `OneTable.Csv.Cursor.next` – the effect of one byte;
* `OneTable.Csv.rowsOf` – the rows of a file.
-/

namespace OneTable.Csv

/-- A cell before it is read as text. -/
abbrev Cell := List UInt8

/-- The quote. -/
def quote : UInt8 := 34

/-- A place in a file: how many bytes precede it, and the number of its line. -/
structure Mark where
  byte : Nat
  line : Nat
deriving DecidableEq

/-- A row of cells with the place where reading it began. -/
structure Row where
  cells : List Cell
  start : Mark
deriving DecidableEq

/-- Where the cursor stands. -/
inductive Place
  /-- Before the first byte of a row. -/
  | row
  /-- Before the first byte of a cell that is not the first of its row. -/
  | cell
  /-- Inside a cell, outside quotes. -/
  | plain
  /-- Inside quotes. -/
  | quoted
  /-- Behind a quote that was met inside quotes. -/
  | closing
deriving DecidableEq

/-- What is known between two bytes. -/
structure Cursor where
  place : Place
  /-- The bytes of the cell that is being read, the last one first. -/
  bytes : List UInt8
  /-- The cells of the row that is being read, the last one first. -/
  cells : List Cell
  mark : Mark
  /-- Where reading the row began. -/
  start : Mark
deriving DecidableEq

/-- A byte that ends a row. -/
def endsRow (b : UInt8) : Bool :=
  b == 10 || b == 13

/-- The place behind a byte. -/
def Mark.after (m : Mark) (b : UInt8) : Mark :=
  ⟨m.byte + 1, if b = 10 then m.line + 1 else m.line⟩

namespace Cursor

/-- The cursor before the row that begins at a place. -/
def before (m : Mark) : Cursor := ⟨.row, [], [], m, m⟩

/-- Takes a byte into the cell. -/
def take (s : Cursor) (place : Place) (b : UInt8) : Cursor :=
  { s with place := place, bytes := b :: s.bytes }

/-- Ends the cell. -/
def endCell (s : Cursor) : Cursor :=
  { s with place := .cell, bytes := [], cells := s.bytes.reverse :: s.cells }

/-- The row, when it ends here. -/
def finished (s : Cursor) : Row :=
  ⟨(s.bytes.reverse :: s.cells).reverse, s.start⟩

/-- The effect of a byte outside quotes, where no cell is being opened. -/
def plainly (s : Cursor) (delimiter b : UInt8) : Cursor × Option Row :=
  if b = delimiter then (s.endCell, none)
  else if endsRow b then (before s.mark, some s.finished)
  else (s.take .plain b, none)

/-- The effect of the first byte of a cell. -/
def opening (s : Cursor) (delimiter b : UInt8) : Cursor × Option Row :=
  if b = quote then ({ s with place := .quoted }, none) else s.plainly delimiter b

/-- **The effect of one byte,** which may finish a row. -/
def next (s : Cursor) (delimiter b : UInt8) : Cursor × Option Row :=
  let s := { s with mark := s.mark.after b }
  match s.place with
  | .row => if endsRow b then (s, none) else s.opening delimiter b
  | .cell => s.opening delimiter b
  | .plain => s.plainly delimiter b
  | .quoted => if b = quote then ({ s with place := .closing }, none) else (s.take .quoted b, none)
  | .closing => if b = quote then (s.take .quoted b, none) else s.plainly delimiter b

/-- **The rows from the cursor on.** The last row needs no end, and a quotation that is
open at the end of the file ends there. -/
def rows (delimiter : UInt8) : Cursor → List UInt8 → List Row
  | s, [] => if s.place = .row then [] else [s.finished]
  | s, b :: bs =>
    match s.next delimiter b with
    | (s, none) => rows delimiter s bs
    | (s, some row) => row :: rows delimiter s bs

end Cursor

/-! ### Files -/

/-- The first row of a file begins at its first byte. -/
def fileStart : Mark := ⟨0, 1⟩

/-- The mark of UTF-8 that may precede everything else. -/
def byteOrderMark : List UInt8 := [0xEF, 0xBB, 0xBF]

/-- **The rows of a file.** A byte order mark at its beginning belongs to no cell. -/
def rowsOf (delimiter : UInt8) : List UInt8 → List Row
  | 0xEF :: 0xBB :: 0xBF :: bs =>
    Cursor.rows delimiter { Cursor.before fileStart with mark := ⟨byteOrderMark.length, 1⟩ } bs
  | bs => Cursor.rows delimiter (Cursor.before fileStart) bs

end OneTable.Csv
