import Mathlib.Data.List.Basic
import OneTable.Inference

/-!
# What the cells of a column say together

The type of a column is recognised while its rows go by: every cell that is not blank strikes out
the types that it does not belong to, and at the end the first of those that are left is taken.
The order of the cells is of no importance then, and neither are the blank ones. What is left at
the end is what *all* cells that speak belong to.

Rows go by as wholes, with a cell for each column, but no column looks at the cells of another:
the evidence at a place is that of the cells at this place.

* `OneTable.Evidence.speaking` – the cells that speak for a column;
* `OneTable.Evidence.foldl_add` – **the evidence in cells**, without any order;
* `OneTable.Evidence.exists_type?_of_mem` – a cell that speaks belongs to the type of its column;
* `OneTable.Evidence.getElem?_foldl_addRow` – the evidence at a place, column by column.
-/

namespace OneTable.Evidence

/-! ### The cells of one column -/

/-- **The cells that speak for a column,** without the blanks around them. -/
def speaking (cells : List String) : List (List Char) :=
  (cells.map fun cell => Text.trim cell.toList).filter (· ≠ [])

theorem mem_speaking {cells : List String} {cell : String} (h : cell ∈ cells)
    (hspeaks : Text.trim cell.toList ≠ []) : Text.trim cell.toList ∈ speaking cells :=
  List.mem_filter.2 ⟨List.mem_map_of_mem h, decide_eq_true hspeaks⟩

/-- **The evidence in cells:** whether one of them speaks, and the types that all those belong to
that do. -/
theorem foldl_add (e : Evidence) (cells : List String) : cells.foldl add e =
    ⟨e.spoken || !(speaking cells).isEmpty,
      e.possible.filter fun t => (speaking cells).all t.accepts⟩ := by
  induction cells generalizing e with
  | nil => simp [speaking]
  | cons cell cells ih =>
    rw [List.foldl_cons, ih, add]
    by_cases h : Text.trim cell.toList = []
    · simp [speaking, h]
    · simp [speaking, h, List.filter_filter, Bool.and_comm]

/-- **A cell that speaks belongs to the type of its column.** -/
theorem exists_type?_of_mem {cells : List String} {cell : String} (h : cell ∈ cells)
    (hspeaks : Text.trim cell.toList ≠ []) :
    ∃ t, (cells.foldl add none).type? = some t ∧ t.accepts (Text.trim cell.toList) = true := by
  have hmem := mem_speaking h hspeaks
  have hspoken : (speaking cells).isEmpty = false :=
    List.isEmpty_eq_false_iff.2 (List.ne_nil_of_mem hmem)
  refine ⟨_, by rw [foldl_add, type?, hspoken]; rfl, ?_⟩
  -- the type is the first that all cells belong to, or text, which every cell is
  rcases hleft : ColumnType.recognised.filter fun t => (speaking cells).all t.accepts
    with _ | ⟨t, ts⟩
  · rw [none, hleft]
    rfl
  · have ht : t ∈ ColumnType.recognised.filter fun t => (speaking cells).all t.accepts := by
      rw [hleft]
      exact List.mem_cons_self
    rw [none, hleft, List.headD_cons]
    exact List.all_eq_true.1 (List.mem_filter.1 ht).2 _ hmem

/-! ### Column by column -/

theorem getElem?_addRow (es : List Evidence) (cells : List String) (place : ℕ) :
    (addRow es cells)[place]? = es[place]?.map fun e => cells[place]?.elim e e.add := by
  induction es generalizing cells place with
  | nil => simp [addRow]
  | cons e es ih =>
    rcases cells with _ | ⟨cell, cells⟩
    · simp [addRow]
    · cases place with
      | zero => rfl
      | succ place => exact ih cells place

/-- The cells of rows at a place. -/
def cellsAt (rows : List (List String)) (place : ℕ) : List String :=
  rows.filterMap fun cells => cells[place]?

theorem mem_cellsAt {rows : List (List String)} {cells : List String} {place : ℕ} {cell : String}
    (hrow : cells ∈ rows) (hcell : cells[place]? = some cell) : cell ∈ cellsAt rows place :=
  List.mem_filterMap.2 ⟨cells, hrow, hcell⟩

/-- **The evidence at a place is that of the cells at this place.** -/
theorem getElem?_foldl_addRow (es : List Evidence) (rows : List (List String)) (place : ℕ) :
    (rows.foldl addRow es)[place]? = es[place]?.map fun e => (cellsAt rows place).foldl add e := by
  induction rows generalizing es with
  | nil => simp [cellsAt]
  | cons cells rows ih =>
    rw [List.foldl_cons, ih, getElem?_addRow, Option.map_map]
    refine congrArg (Option.map · es[place]?) (funext fun e => ?_)
    rcases h : cells[place]? with _ | cell
    · simp [cellsAt, h]
    · simp [cellsAt, h]

end OneTable.Evidence
