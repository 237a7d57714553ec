import OneTable.Config.Basic
import OneTable.Text.Blank

/-!
# Listing the output columns

A listing shows rows of cells below headers, in columns as wide as their widest cell,
with two blanks between columns and none at the end of a line. Line breaks and tabs
inside a cell are shown as blanks, so that a row is always one line.

* `OneTable.Listing.render` – the listing of headers and rows;
* `OneTable.Listing.ofConfig` – the listing of a configuration's output.
-/

namespace OneTable.Listing

/-- A cell on one line. -/
def flat (cell : String) : List Char :=
  cell.toList.map fun c => if c = '\n' ∨ c = '\r' ∨ c = '\t' then ' ' else c

/-- The widths of the columns, widened by a row. A row may be shorter or longer than
the headers. -/
def widen : List Nat → List String → List Nat
  | w :: ws, c :: cs => max w (flat c).length :: widen ws cs
  | ws, _ => ws

/-- The widths of the columns. A header counts as it is. -/
def widths (headers : List String) (rows : List (List String)) : List Nat :=
  rows.foldl widen (headers.map fun h => max h.length 1)

/-- A cell with blanks behind it up to a width. -/
def fill (cell : String) (width : Nat) : List Char :=
  let cs := flat cell
  cs ++ List.replicate (width - cs.length) ' '

/-- One line, with its end. -/
def line (cells : List String) (widths : List Nat) : List Char :=
  let filled := (cells.zip widths).map fun (c, w) => fill c w
  Text.trimEnd (List.intercalate [' ', ' '] filled) ++ ['\n']

/-- **The listing of headers and rows:** the headers, a rule, and one line for each row. -/
def render (headers : List String) (rows : List (List String)) : String :=
  let ws := widths headers rows
  let rule := ws.map fun w => String.ofList (List.replicate w '-')
  String.ofList (line headers ws ++ line rule ws ++ rows.flatMap fun r => line r ws)

/-- The headers of the listing of a configuration. -/
def headers : List String := ["#", "output", "type", "source", "converter"]

/-- The row of a slot. -/
def row (place : Nat) (s : Slot) : List String :=
  [toString place, s.setting.output.name, s.setting.output.type.name, s.setting.rawName,
    s.setting.path.converter]

/-- **The listing of a configuration's output,** which needs distinct names. -/
def ofConfig (c : Config) : Except Fault String :=
  match c.outputSchema with
  | .error e => .error e
  | .ok _ => .ok (render headers (c.slots.zipIdx.map fun (s, i) => row (i + 1) s))

end OneTable.Listing
