import OneTable.Conversion
import OneTable.Fault
import OneTable.RawSpec

/-!
# The model of an output table

A model says what becomes of every column that its filter mode shows: whether it is
kept, under which name, and along which path its cells are converted. The columns
stand in output order, so the position of a column is its place in the list and a
reordering is a permutation of the list. The *anchor* is the place where columns that
turn up later will be put.

* `OneTable.Transformation` – what becomes of one column;
* `OneTable.Model` – the columns in output order, and the anchor;
* `OneTable.Model.fresh` – the model of a raw spec nobody has edited;
* `OneTable.Model.keptNames`, `OneTable.Model.validate` – the output names, which have
  to differ.
-/

namespace OneTable

/-- What becomes of a column. -/
structure Transformation where
  column : Column
  path : ConversionPath
  keep : Bool
  outputName : String
deriving DecidableEq

namespace Transformation

/-- The name of the column. -/
def name (t : Transformation) : String := t.column.name

/-- The settings of a column nobody has edited: its own name and its standard path. -/
def standard (column : Column) (keep : Bool) : Transformation :=
  ⟨column, ConversionPath.standard column.type, keep, column.name⟩

@[simp]
theorem name_standard (c : Column) (keep : Bool) : (standard c keep).name = c.name := rfl

end Transformation

/-- The model of an output table. -/
structure Model where
  raw : RawSpec
  /-- The columns the filter mode shows, in output order. -/
  columns : List Transformation
  mode : FilterMode
  /-- Whether columns that turn up later are kept. -/
  keepUnknown : Bool
  /-- Where columns that turn up later are put. -/
  anchor : Nat
deriving DecidableEq

/-! ### Repeated names -/

/-- **The first name that is met a second time,** in a list read from the left. -/
def firstRepeated (seen : List String) : List String → Option String
  | [] => none
  | n :: ns => if n ∈ seen then some n else firstRepeated (n :: seen) ns

/-- Fails on the first name that is met a second time. -/
def checkDistinct (names : List String) : Except Fault Unit :=
  match firstRepeated [] names with
  | some n => .error (.duplicateOutputName n)
  | none => .ok ()

namespace Model

/-- The filter mode needs a column that all items share, and there is none. -/
def lacksShared (mode : FilterMode) (raw : RawSpec) : Bool :=
  mode = .intersection && raw.intersection.isEmpty

/-- **The model of a raw spec nobody has edited:** every column that the mode shows is
kept, in raw order, and new columns go to the end. -/
def fresh (raw : RawSpec) (mode : FilterMode) : Except Fault Model :=
  if lacksShared mode raw then .error .emptyIntersection
  else
    let columns := (raw.relevant mode).map fun c => Transformation.standard c true
    .ok ⟨raw, columns, mode, true, columns.length⟩

/-- The names of the columns, in output order. -/
def names (m : Model) : List String :=
  m.columns.map Transformation.name

/-- The settings of a column. -/
def get? (m : Model) (name : String) : Option Transformation :=
  m.columns.find? fun t => t.name = name

/-- The place of a column in the output. -/
def position? (m : Model) (name : String) : Option Nat :=
  m.columns.findIdx? fun t => t.name = name

/-- The columns that are kept, in output order. -/
def kept (m : Model) : List Transformation :=
  m.columns.filter Transformation.keep

/-- The output names of the columns that are kept. -/
def keptNames (m : Model) : List String :=
  m.kept.map Transformation.outputName

/-- **The output names of the columns that are kept have to differ.** -/
def validate (m : Model) : Except Fault Unit :=
  checkDistinct m.keptNames

end Model

end OneTable
