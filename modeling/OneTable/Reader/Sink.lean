import OneTable.Csv.Line
import OneTable.Encoding.Utf8
import OneTable.Reader.Stream

/-!
# Sinks of rows

Where rows go to does not matter either. A sink is told the columns, then every row, and
at last that there are no more; each time it may refuse. What a sink has taken is its
state.

* `OneTable.Sink` – a sink;
* `OneTable.Sink.delimited` – the sink that writes a delimited file.
-/

namespace OneTable

/-- A sink of rows with states of a type. -/
structure Sink (σ : Type) where
  /-- Takes the columns. -/
  start : List OutputColumn → σ → Except Trace Unit × σ
  /-- Takes a row. -/
  push : OutputRow → σ → Except Trace Unit × σ
  /-- Takes notice of the end. -/
  finish : σ → Except Trace Unit × σ

/-- What a sink of a delimited file has written. -/
structure WrittenFile where
  bytes : List UInt8 := []
  rows : Nat := 0
deriving DecidableEq

namespace Sink

/-- The text of a cell of the output; a missing value is an empty cell. -/
def cellText (v : Option Value) : String :=
  (v.map Value.text).getD ""

/-- The line of texts. -/
def textLine (delimiter : UInt8) (texts : List String) : List UInt8 :=
  Csv.line delimiter (texts.map fun t => Utf8.encode t.toList)

/-- **The sink that writes a delimited file:** the names of the columns and then the
rows. It refuses nothing. -/
def delimited (delimiter : UInt8) : Sink WrittenFile where
  start columns f :=
    (.ok (), { f with bytes := f.bytes ++ textLine delimiter (columns.map OutputColumn.name) })
  push row f := (.ok (), ⟨f.bytes ++ textLine delimiter (row.map cellText), f.rows + 1⟩)
  finish f := (.ok (), f)

end Sink

end OneTable
