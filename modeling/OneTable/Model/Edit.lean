import OneTable.Model.Reconcile

/-!
# Editing a model

The calls by which a user shapes the output. A call answers with the model that comes of
it, and one that names a column fails when the model does not have it. Which model a
session goes on with when a call fails is said in `OneTable.Model.Keyed`, where calls hand
back a model whatever they answer.

* `OneTable.Model.setKeep`, `OneTable.Model.rename`, `OneTable.Model.setPath`,
  `OneTable.Model.reset` – the settings of one column;
* `OneTable.Model.moveTo` – its position;
* `OneTable.Model.setKeepUnknown`, `OneTable.Model.setAnchor` – what becomes of columns
  that turn up later;
* `OneTable.Model.setMode` – the filter mode.
-/

namespace OneTable

/-- The same column along another path, which its type has to offer. -/
def Transformation.along (t : Transformation) (path : ConversionPath) :
    Except Fault Transformation :=
  if path ∈ ConversionPath.available t.column.type then .ok { t with path := path }
  else .error (.invalidPath t.name t.column.type path.converter)

namespace Model

/-- Changes the settings of the columns of a name. -/
def modify (m : Model) (name : String) (f : Transformation → Transformation) : Model :=
  { m with columns := m.columns.map fun t => if t.name = name then f t else t }

/-- Changes the settings of a column that has to be there; the change may fail. -/
def edit (m : Model) (name : String) (f : Transformation → Except Fault Transformation) :
    Except Fault Model :=
  match m.get? name with
  | none => .error (.unknownColumn name)
  | some t => (f t).map fun t => m.modify name fun _ => t

/-- Keeps a column or drops it. -/
def setKeep (m : Model) (name : String) (keep : Bool) : Except Fault Model :=
  m.edit name fun t => .ok { t with keep := keep }

/-- Gives a column another output name. Names may collide for a while. -/
def rename (m : Model) (name outputName : String) : Except Fault Model :=
  m.edit name fun t => .ok { t with outputName := outputName }

/-- Converts a column along another path, which its type has to offer. -/
def setPath (m : Model) (name : String) (path : ConversionPath) : Except Fault Model :=
  m.edit name (·.along path)

/-- Gives a column the settings of a column nobody has edited. Its position stays. -/
def reset (m : Model) (name : String) : Except Fault Model :=
  m.edit name fun t => .ok (Transformation.standard t.column true)

/-- **Moves a column to a position,** and to the last one when there are fewer. The other
columns keep their order, and the anchor stays where it is. -/
def moveTo (m : Model) (name : String) (position : Nat) : Except Fault Model :=
  match m.get? name with
  | none => .error (.unknownColumn name)
  | some t =>
    let others := m.columns.filter fun u => u.name ≠ name
    .ok { m with columns := others.take position ++ t :: others.drop position }

/-- Whether columns that turn up later are kept. -/
def setKeepUnknown (m : Model) (keep : Bool) : Model :=
  { m with keepUnknown := keep }

/-- Where columns that turn up later are put; the end at most. -/
def setAnchor (m : Model) (position : Nat) : Model :=
  { m with anchor := min position m.columns.length }

/-- **Switches the filter mode.** Columns that both modes show keep their settings and
their order; the ones that appear are put at the anchor. -/
def setMode (m : Model) (mode : FilterMode) : Except Fault Model :=
  if mode = m.mode then .ok m
  else if lacksShared mode m.raw then .error .emptyIntersection
  else .ok (m.reslot m.raw mode)

end Model

end OneTable
