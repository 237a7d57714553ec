import OneTable.Config.Basic
import OneTable.Source.Basic

/-!
# The stream of rows

The rows of all items of a configuration, one item after the other, in the shape of the
output. A cell of the output is the cell of the item's column of that name, converted
along the column's path; it is missing when the item has no such column. A row that
cannot be converted, a row that cannot be read and an item that cannot be opened are
faults in their place, and the stream goes on behind them.

Rows are drawn one at a time. What they are drawn from remembers the items that wait to
be opened and, of the item that is open, the rows behind the last one that was drawn.
When the open item has no more rows the next one is opened, so that a single draw may
pass over any number of items without rows.

* `OneTable.convertRow` – a row in the shape of the output;
* `OneTable.Rows` – rows on their way, with `OneTable.Rows.next`, which draws one, and
  `OneTable.Rows.all`, which draws them all;
* `OneTable.Rows.left` – what is still to be drawn, with `OneTable.Rows.draw_eq`: a draw
  takes the first of it;
* `OneTable.Config.rows`, `OneTable.Config.stream` – the rows of a configuration.
-/

namespace OneTable

/-- A row of the output; a cell may be missing. -/
abbrev OutputRow := List (Option Value)

/-- The result for a row. -/
abbrev StreamRow := Except Fault OutputRow

/-- The cell of a slot, out of the column at a place. -/
def convertCell (cells : List String) (slot : Slot) (place : Option Nat) :
    Except Fault (Option Value) :=
  match place.bind (cells[·]?) with
  | none => .ok none
  | some cell =>
    (slot.setting.path.convert cell).mapError
      (.conversion slot.setting.output.name cell slot.setting.path.converter)

/-- **A row in the shape of the output.** The first cell that cannot be converted is the
fault of the row. -/
def convertRow (places : List (Slot × Option Nat)) (cells : List String) : StreamRow :=
  places.mapM fun (slot, place) => convertCell cells slot place

/-- The slots with the places of their columns in an item. -/
def Config.places (c : Config) (spec : TableSpec) : List (Slot × Option Nat) :=
  c.slots.map fun slot => (slot, spec.index? slot.setting.rawName)

/-! ### Rows on their way -/

/-- An item that is open. -/
structure OpenItem where
  item : String
  /-- The slots of the output, with the places of their columns in the item. -/
  places : List (Slot × Option Nat)
  /-- The rows that were not drawn yet. -/
  rows : List SourceRow

namespace OpenItem

/-- The result for a row of an open item. -/
def result (o : OpenItem) : SourceRow → StreamRow
  | .error trace => .error (.scan o.item trace)
  | .ok cells => convertRow o.places cells

/-- Draws from an open item, if it has more rows. -/
def next? (o : OpenItem) : Option (StreamRow × OpenItem) :=
  match o.rows with
  | [] => none
  | row :: rows => some (o.result row, { o with rows := rows })

end OpenItem

/-- Rows on their way to the output. -/
structure Rows where
  config : Config
  source : Source
  /-- The items that were not opened yet. -/
  waiting : List (String × TableSpec)
  /-- The item that is open. -/
  opened : Option OpenItem

namespace Rows

/-- Draws from the open item, and from the items that wait when it has no more rows. -/
def draw (config : Config) (source : Source) (waiting : List (String × TableSpec))
    (opened : Option OpenItem) : Option StreamRow × Rows :=
  match opened.bind OpenItem.next? with
  | some (result, o) => (some result, ⟨config, source, waiting, some o⟩)
  | none =>
    match waiting with
    | [] => (none, ⟨config, source, [], none⟩)
    | (item, spec) :: waiting =>
      match source.rows item with
      | .error trace => (some (.error (.scan item trace)), ⟨config, source, waiting, none⟩)
      | .ok rows => draw config source waiting (some ⟨item, config.places spec, rows⟩)

/-- **Draws the next row,** if there is one. -/
def next (r : Rows) : Option StreamRow × Rows :=
  draw r.config r.source r.waiting r.opened

end Rows

/-! ### What is still to be drawn -/

/-- **The rows of one item.** -/
def Config.itemStream (c : Config) (source : Source) (item : String) (spec : TableSpec) :
    List StreamRow :=
  match source.rows item with
  | .error trace => [.error (.scan item trace)]
  | .ok rows =>
    let places := c.places spec
    rows.map fun
      | .error trace => .error (.scan item trace)
      | .ok cells => convertRow places cells

namespace Rows

/-- **The results that are still to be drawn.** -/
def left (r : Rows) : List StreamRow :=
  (r.opened.elim [] fun o => o.rows.map o.result) ++
    r.waiting.flatMap fun (item, spec) => r.config.itemStream r.source item spec

section Draw

variable {config : Config} {source : Source} {waiting : List (String × TableSpec)}

theorem left_cons (e : String × TableSpec) : (Rows.mk config source (e :: waiting) none).left =
    config.itemStream source e.1 e.2 ++ (Rows.mk config source waiting none).left := rfl

/-- The rows of an item that can be opened are results of the open item. -/
theorem itemStream_of_rows {item : String} {rows : List SourceRow}
    (hrows : source.rows item = .ok rows) (spec : TableSpec) :
    config.itemStream source item spec =
      rows.map (OpenItem.result ⟨item, config.places spec, rows⟩) := by
  rw [Config.itemStream, hrows]
  refine List.map_congr_left fun row _ => ?_
  cases row <;> rfl

/-- **A draw takes the first of what is left,** and the others are left behind it. -/
theorem draw_eq (opened : Option OpenItem) :
    (draw config source waiting opened).1 = (Rows.mk config source waiting opened).left.head? ∧
      (draw config source waiting opened).2.left =
        (Rows.mk config source waiting opened).left.tail := by
  induction waiting generalizing opened with
  | nil =>
    rcases opened with _ | ⟨item, places, _ | ⟨row, rows⟩⟩
    · exact ⟨rfl, rfl⟩
    · exact ⟨rfl, rfl⟩
    · exact ⟨rfl, rfl⟩
  | cons e waiting ih =>
    -- where no open item has more rows, the next item is opened
    have hclosed : (draw config source (e :: waiting) none).1 =
          (Rows.mk config source (e :: waiting) none).left.head? ∧
        (draw config source (e :: waiting) none).2.left =
          (Rows.mk config source (e :: waiting) none).left.tail := by
      rw [draw, left_cons]
      rcases hrows : source.rows e.1 with trace | rows
      · rw [Config.itemStream, hrows]
        exact ⟨rfl, rfl⟩
      · rw [itemStream_of_rows hrows]
        exact ih _
    rcases opened with _ | ⟨item, places, _ | ⟨row, rows⟩⟩
    · exact hclosed
    · exact hclosed
    · exact ⟨rfl, rfl⟩

end Draw

/-- **The next row is the first of what is left,** and then the others are left. -/
theorem next_eq (r : Rows) : r.next.1 = r.left.head? ∧ r.next.2.left = r.left.tail :=
  draw_eq r.opened

/-- Less is left behind a result that was drawn. -/
theorem length_left_lt {r rest : Rows} {result : StreamRow} (h : r.next = (some result, rest)) :
    rest.left.length < r.left.length := by
  obtain ⟨hfirst, hrest⟩ := r.next_eq
  rw [h] at hfirst hrest
  obtain ⟨results, hleft⟩ := List.head?_eq_some_iff.1 hfirst.symm
  rw [hrest, hleft, List.tail_cons, List.length_cons]
  exact Nat.lt_succ_self _

/-- **Draws all rows that are left.** -/
def all (r : Rows) : List StreamRow :=
  match _h : r.next with
  | (none, _) => []
  | (some result, rest) => result :: rest.all
termination_by r.left.length
decreasing_by exact length_left_lt _h

end Rows

namespace Config

/-- **The rows of a configuration,** before the first one is drawn. -/
def rows (c : Config) (source : Source) : Rows :=
  ⟨c, source, c.items.entries, none⟩

/-- **The rows of all items.** -/
def stream (c : Config) (source : Source) : List StreamRow :=
  (c.rows source).all

end Config

end OneTable
