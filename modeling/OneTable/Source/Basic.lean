import OneTable.Column
import OneTable.Fault

/-!
# Sources of rows

Where rows come from does not matter to the rest of the library. A source tells the
columns of an item and its rows of cells, and both may fail; a row may fail for itself,
without ending the rows behind it.

* `OneTable.Source` – a source of rows.
-/

namespace OneTable

/-- A row as a source gives it. -/
abbrev SourceRow := Except Trace (List String)

/-- A source of rows. -/
structure Source where
  /-- The columns of an item. -/
  columns : String → Except Trace TableSpec
  /-- The rows of an item, without its header. -/
  rows : String → Except Trace (List SourceRow)

end OneTable
