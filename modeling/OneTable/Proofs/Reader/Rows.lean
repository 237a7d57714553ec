import OneTable.Proofs.Result
import OneTable.Reader.Stream

/-!
# The stream of rows is a table

Rows are drawn one at a time, and between two draws nothing is kept but the items that wait and
the rows that are left of the item that is open. What comes out of a draw depends on both: it may
be the next row of the open item, or the first row of an item that had to be opened for it, or
the fault of one that could not be opened, and any number of items without rows may be passed
over on the way.

Here it is said what comes out without any draws. The *table* of a configuration has the items
one below the other, in their order. An item that cannot be opened has its fault in the place of
its rows. Every other item has one result for each of its rows: the fault of a row that cannot be
read; the fault of the first slot whose cell cannot be converted; or else one cell for each slot,
taken from below the first column that bears the slot's name, and missing where the item has no
such column or the row ends before it.

A draw takes the first of the results that are left (`OneTable.Rows.next_eq`), so that the draw
behind `n` others takes the result behind `n` others. Behind the last result there is nothing,
however often one draws.

* `OneTable.Rows.answer` – what comes out of the draw behind `n` others, with
  `OneTable.Rows.answer_eq`;
* `OneTable.Config.table` – the table of a configuration;
* `OneTable.Config.answer_rows` – **every draw takes its row of the table**.
-/

namespace OneTable

/-! ### Draws -/

namespace Rows

/-- The rows behind some draws. -/
def after (r : Rows) : ℕ → Rows
  | 0 => r
  | n + 1 => r.next.2.after n

/-- **What comes out of the draw** behind `n` others. -/
def answer (r : Rows) (n : ℕ) : Option StreamRow :=
  (r.after n).next.1

/-- Every draw leaves one result less. -/
theorem left_after (r : Rows) (n : ℕ) : (r.after n).left = r.left.drop n := by
  induction n generalizing r with
  | zero => rfl
  | succ n ih => rw [after, ih, r.next_eq.2, List.drop_tail]

/-- **The draw behind `n` others takes the result behind `n` others.** -/
theorem answer_eq (r : Rows) (n : ℕ) : r.answer n = r.left[n]? := by
  rw [answer, (r.after n).next_eq.1, left_after, List.head?_drop]

/-- **Drawing all rows gives what is left.** -/
theorem all_eq_left (r : Rows) : r.all = r.left := by
  fun_induction all r with
  | case1 r rest hnext =>
    have hfirst := r.next_eq.1
    rw [hnext] at hfirst
    exact (List.head?_eq_none_iff.1 hfirst.symm).symm
  | case2 r result rest hnext ih =>
    obtain ⟨hfirst, hrest⟩ := r.next_eq
    rw [hnext] at hfirst hrest
    obtain ⟨results, hleft⟩ := List.head?_eq_some_iff.1 hfirst.symm
    rw [ih, hrest, hleft, List.tail_cons]

end Rows

/-- **The rows of all items** are those of one item after the other. -/
theorem Config.stream_eq_flatMap (c : Config) (source : Source) :
    c.stream source = c.items.entries.flatMap fun e => c.itemStream source e.1 e.2 :=
  (c.rows source).all_eq_left

/-- Rows come from the items, and they go into the slots. -/
theorem Config.stream_congr {c c' : Config} (hslots : c'.slots = c.slots)
    (hitems : c'.items = c.items) (source : Source) : c'.stream source = c.stream source := by
  have hplaces : ∀ spec, c'.places spec = c.places spec := fun spec => by
    rw [places, places, hslots]
  simp only [stream_eq_flatMap, itemStream, hitems, hplaces]

/-! ### Cells below names -/

/-- **The cell of a row under a name:** the one below the first column that bears it, if the row
is long enough. -/
def TableSpec.cell? (spec : TableSpec) (name : String) (cells : List String) : Option String :=
  ((spec.names.zip cells).find? fun e => e.1 = name).map Prod.snd

/-- The cell under a name stands at the place of the name. -/
theorem TableSpec.cell?_eq (spec : TableSpec) (name : String) (cells : List String) :
    spec.cell? name cells = (spec.index? name).bind (cells[·]?) := by
  obtain ⟨columns⟩ := spec
  rw [cell?, names, index?]
  induction columns generalizing cells with
  | nil => rfl
  | cons column columns ih =>
    cases cells with
    | nil => simp
    | cons cell cells =>
      by_cases h : column.name = name
      · simp [h, List.findIdx?_cons]
      · have hcolumn : decide (column.name = name) = false := decide_eq_false h
        simp only [List.map_cons, List.zip_cons_cons, List.find?_cons, List.findIdx?_cons, hcolumn]
        rw [if_neg Bool.false_ne_true, Option.bind_map]
        exact ih cells

namespace Slot

variable (slot : Slot) (spec : TableSpec) (cells : List String)

/-- The value of a slot in a row, if there is a cell and its conversion does not leave it out. -/
def value? : Option Value :=
  (spec.cell? slot.setting.rawName cells).bind fun cell =>
    (slot.setting.path.convert cell).toOption.join

/-- The fault of a slot in a row, if there is a cell that cannot be converted. -/
def fault? : Option Fault :=
  (spec.cell? slot.setting.rawName cells).bind fun cell =>
    match slot.setting.path.convert cell with
    | .ok _ => none
    | .error cause =>
      some (.conversion slot.setting.output.name cell slot.setting.path.converter cause)

/-- The cell of a slot comes to the value of the slot, unless it comes to its fault. -/
theorem convertCell_eq : convertCell cells slot (spec.index? slot.setting.rawName) =
    (slot.fault? spec cells).elim (.ok (slot.value? spec cells)) .error := by
  rw [convertCell, value?, fault?, TableSpec.cell?_eq]
  rcases (spec.index? slot.setting.rawName).bind (cells[·]?) with _ | cell
  · rfl
  · simp only [Option.bind_some]
    rcases slot.setting.path.convert cell with cause | v
    · rfl
    · rfl

variable {slot spec cells}

/-- A slot has the value that its cell is converted to. -/
theorem value?_eq_some_iff {v : Value} : slot.value? spec cells = some v ↔
    ∃ cell, spec.cell? slot.setting.rawName cells = some cell ∧
      slot.setting.path.convert cell = .ok (some v) := by
  rw [value?, Option.bind_eq_some_iff]
  refine exists_congr fun cell => and_congr_right fun _ => ?_
  rcases slot.setting.path.convert cell with cause | _ | w <;>
    simp [Except.toOption]

/-- A slot has the fault of a cell that cannot be converted. -/
theorem fault?_eq_some_iff {fault : Fault} : slot.fault? spec cells = some fault ↔
    ∃ cell cause, spec.cell? slot.setting.rawName cells = some cell ∧
      slot.setting.path.convert cell = .error cause ∧
      fault = .conversion slot.setting.output.name cell slot.setting.path.converter cause := by
  simp only [fault?, Option.bind_eq_some_iff, exists_and_left]
  refine exists_congr fun cell => and_congr_right fun _ => ?_
  rcases slot.setting.path.convert cell with cause | v <;> simp [eq_comm]

end Slot

/-! ### The table -/

namespace Config

variable (c : Config) (source : Source)

/-- **The row of the output** for a row of an item: a cell for each slot, or the fault of the
first slot that has one. -/
def rowFor (spec : TableSpec) (cells : List String) : StreamRow :=
  (c.slots.findSome? fun slot => slot.fault? spec cells).elim
    (.ok (c.slots.map fun slot => slot.value? spec cells)) .error

/-- The results for the rows of an item. -/
def itemTable (item : String) (spec : TableSpec) : List StreamRow :=
  match source.rows item with
  | .error trace => [.error (.scan item trace)]
  | .ok rows =>
    rows.map fun
      | .error trace => .error (.scan item trace)
      | .ok cells => c.rowFor spec cells

/-- **The table of a configuration:** its items, one below the other. -/
def table : List StreamRow :=
  c.items.entries.flatMap fun e => c.itemTable source e.1 e.2

/-- A row that is converted slot by slot, up to the first fault, is the row of the output. -/
theorem convertRow_places (spec : TableSpec) (cells : List String) :
    convertRow (c.places spec) cells = c.rowFor spec cells := by
  rw [convertRow, places, List.mapM_map, rowFor, ← mapM_elim]
  exact congrArg (c.slots.mapM ·) (funext fun slot => slot.convertCell_eq spec cells)

theorem itemStream_eq_itemTable (item : String) (spec : TableSpec) :
    c.itemStream source item spec = c.itemTable source item spec := by
  rw [itemStream, itemTable]
  rcases source.rows item with trace | rows
  · rfl
  · refine List.map_congr_left fun row _ => ?_
    rcases row with trace | cells
    · rfl
    · exact c.convertRow_places spec cells

section Results

variable {c source} {spec : TableSpec} {cells : List String}

/-- A row of the output has the values of the slots. -/
theorem eq_of_rowFor_eq_ok {row : OutputRow} (h : c.rowFor spec cells = .ok row) :
    row = c.slots.map fun slot => slot.value? spec cells := by
  rw [rowFor] at h
  rcases hfirst : c.slots.findSome? fun slot => slot.fault? spec cells with _ | first
  · rw [hfirst] at h
    exact (Except.ok.inj h).symm
  · rw [hfirst] at h
    exact absurd h error_ne_ok

/-- The fault of a row is that of one of the slots. -/
theorem exists_slot_of_rowFor_eq_error {fault : Fault} (h : c.rowFor spec cells = .error fault) :
    ∃ slot ∈ c.slots, slot.fault? spec cells = some fault := by
  rw [rowFor] at h
  rcases hfirst : c.slots.findSome? fun slot => slot.fault? spec cells with _ | first
  · rw [hfirst] at h
    exact absurd h.symm error_ne_ok
  · rw [hfirst] at h
    obtain rfl := Except.error.inj h
    exact List.exists_of_findSome?_eq_some hfirst

/-- **What is no fault of reading an item** is what a row of an item comes to. -/
theorem exists_row_of_mem_stream {result : StreamRow} (h : result ∈ c.stream source)
    (hread : ∀ item trace, result ≠ .error (.scan item trace)) :
    ∃ item spec rows cells, (item, spec) ∈ c.items.entries ∧ source.rows item = .ok rows ∧
      .ok cells ∈ rows ∧ c.rowFor spec cells = result := by
  rw [stream_eq_flatMap] at h
  obtain ⟨⟨item, spec⟩, hentry, hresult⟩ := List.mem_flatMap.1 h
  rw [itemStream_eq_itemTable, itemTable] at hresult
  rcases hrows : source.rows item with trace | rows
  · simp only [hrows, List.mem_singleton] at hresult
    exact absurd hresult (hread item trace)
  · simp only [hrows] at hresult
    obtain ⟨row, hrow, hresult⟩ := List.mem_map.1 hresult
    rcases row with trace | cells
    · exact absurd hresult.symm (hread item trace)
    · exact ⟨item, spec, rows, cells, hentry, hrows, hrow, hresult⟩

end Results

/-- **Every draw takes its row of the table.** The draw behind `n` others gives the result behind
`n` others in the table, and nothing once the table is at its end; so all that is drawn is the
table. -/
theorem answer_rows :
    (∀ n, (c.rows source).answer n = (c.table source)[n]?) ∧
      c.stream source = c.table source := by
  have hleft : (c.rows source).left = c.table source :=
    List.flatMap_congr fun e _ => c.itemStream_eq_itemTable source e.1 e.2
  exact ⟨fun n => hleft ▸ (c.rows source).answer_eq n, (c.rows source).all_eq_left.trans hleft⟩

end Config

end OneTable
