import OneTable.ColumnType
import OneTable.Number.Integer

/-!
# Columns and the specs of tables

A table spec lists the columns of one item, in the order of its header. A column
has a name and a type, and it remembers whether any cell spoke for the type: a
column without evidence reads as text and gives way to every other opinion.

The cells of a header are no names yet: they may be blank or repeat each other.
`OneTable.resolveNames` gives every column a name of its own, and looks only at the
columns before it.

* `OneTable.Column`, `OneTable.TableSpec` – the types;
* `OneTable.resolveNames` – names for the cells of a header;
* `OneTable.TableSpec.ofHeader` – the spec of a header and of the types found.
-/

namespace OneTable

/-- A column: its name, its type, and whether the type rests on evidence. -/
structure Column where
  name : String
  type : ColumnType
  typed : Bool
deriving DecidableEq

namespace Column

/-- A column of a known type. -/
def ofType (name : String) (type : ColumnType) : Column :=
  ⟨name, type, true⟩

/-- A column without evidence for a type, which reads as text. -/
def untyped (name : String) : Column :=
  ⟨name, .string, false⟩

/-- A column of the type that was found, if one was. -/
def ofEvidence (name : String) : Option ColumnType → Column
  | some type => ofType name type
  | none => untyped name

@[simp]
theorem name_ofEvidence (name : String) (t : Option ColumnType) :
    (ofEvidence name t).name = name := by
  cases t <;> rfl

end Column

/-! ### Names for the cells of a header -/

/-- The name a header cell asks for: the cell without the blanks around it, or the
place of the column, counted from one, when nothing is left. -/
def baseName (place : Nat) (cell : String) : String :=
  let name := Text.trimmed cell
  if name = "" then "Column" ++ String.ofList (decimalDigits place) else name

/-- A name with a number behind it. -/
def numberedName (base : String) (k : Nat) : String :=
  base ++ " (#" ++ String.ofList (decimalDigits k) ++ ")"

/-- The first numbered name from `k` on that is not taken; `fuel` names are tried. -/
def freeNumbered (taken : List String) (base : String) : Nat → Nat → String
  | 0, k => numberedName base k
  | fuel + 1, k =>
    if numberedName base k ∈ taken then freeNumbered taken base fuel (k + 1)
    else numberedName base k

/-- **A name that is not taken:** the base, or else the base with the least free number.
Of the numbers up to the count of taken names one is free. -/
def freeName (taken : List String) (base : String) : String :=
  if base ∈ taken then freeNumbered taken base taken.length 1 else base

/-- Names for the remaining cells of a header, after the names already given. -/
def resolveAfter (taken : List String) : List String → List String
  | [] => []
  | cell :: cells =>
    let name := freeName taken (baseName (taken.length + 1) cell)
    name :: resolveAfter (taken ++ [name]) cells

/-- **Names for the cells of a header,** each different from the ones before. -/
def resolveNames (cells : List String) : List String :=
  resolveAfter [] cells

@[simp]
theorem length_resolveAfter (taken cells : List String) :
    (resolveAfter taken cells).length = cells.length := by
  induction cells generalizing taken with
  | nil => rfl
  | cons cell cells ih => simp [resolveAfter, ih]

@[simp]
theorem length_resolveNames (cells : List String) :
    (resolveNames cells).length = cells.length :=
  length_resolveAfter [] cells

/-! ### Table specs -/

/-- The columns of one item, in order. -/
structure TableSpec where
  columns : List Column
deriving DecidableEq

namespace TableSpec

/-- The names of the columns. -/
def names (t : TableSpec) : List String :=
  t.columns.map Column.name

/-- The first column of a name. -/
def column? (t : TableSpec) (name : String) : Option Column :=
  t.columns.find? fun c => c.name = name

/-- The place of the first column of a name. -/
def index? (t : TableSpec) (name : String) : Option Nat :=
  t.columns.findIdx? fun c => c.name = name

/-- Some column has the name. -/
def contains (t : TableSpec) (name : String) : Bool :=
  t.columns.any fun c => c.name = name

/-- Pairs names with the types that were found; a missing type is no evidence. -/
def pair : List String → List (Option ColumnType) → List Column
  | [], _ => []
  | name :: names, [] => Column.untyped name :: pair names []
  | name :: names, t :: types => Column.ofEvidence name t :: pair names types

@[simp]
theorem map_name_pair (names : List String) (types : List (Option ColumnType)) :
    (pair names types).map Column.name = names := by
  induction names generalizing types with
  | nil => rfl
  | cons name names ih => cases types <;> simp [pair, ih, Column.untyped]

/-- **The spec of a header** and of the types found for its columns. -/
def ofHeader (cells : List String) (types : List (Option ColumnType)) : TableSpec :=
  ⟨pair (resolveNames cells) types⟩

@[simp]
theorem names_ofHeader (cells : List String) (types : List (Option ColumnType)) :
    (ofHeader cells types).names = resolveNames cells := by
  simp [ofHeader, names]

end TableSpec

end OneTable
