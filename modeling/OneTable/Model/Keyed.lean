import OneTable.Model.Edit

/-!
# Models by name

A session works on a model through the names of its columns. In a *keyed* model every
column is found under its name, and it knows its position; the entries stand in no order,
and the output order is read off the positions. So a move does not move anything: it gives
new positions, one column after the other, and a model that is carried over is numbered
anew.

A call answers, and it hands back the model beside the answer, also if it refuses.

* `OneTable.Placed` – a column with its position;
* `OneTable.KeyedModel` – the columns by name, with `OneTable.KeyedModel.ofColumns` and
  `OneTable.KeyedModel.toModel`;
* `OneTable.KeyedModel.setKeep`, `OneTable.KeyedModel.rename`,
  `OneTable.KeyedModel.setPath`, `OneTable.KeyedModel.reset`, `OneTable.KeyedModel.moveTo`,
  `OneTable.KeyedModel.setMode` – the calls that may be refused;
* `OneTable.KeyedModel.reslot`, `OneTable.KeyedModel.reconcile` – another raw spec.
-/

namespace OneTable

/-! ### Columns with their positions -/

/-- A column with its position in the output. -/
structure Placed where
  settings : Transformation
  position : Nat
deriving DecidableEq

namespace Placed

/-- The name of the column. -/
def name (e : Placed) : String := e.settings.name

/-- The settings carried over to the new column of the same name. The position is the old
one. -/
def carryOver (e : Placed) (c : Column) : Placed :=
  { e with settings := e.settings.carryOver c }

/-- Columns in output order, with their places as positions. -/
def numbered (columns : List Transformation) : List Placed :=
  columns.zipIdx.map fun p => ⟨p.1, p.2⟩

/-- Puts a column under its name, in the place of another one of this name. -/
def insert (e : Placed) : List Placed → List Placed
  | [] => [e]
  | d :: es => if d.name = e.name then e :: es else d :: insert e es

/-- Gives the column of a name a position. -/
def place (name : String) (position : Nat) (es : List Placed) : List Placed :=
  es.map fun e => if e.name = name then { e with position := position } else e

/-- **Gives the columns of a list of names** the numbers from `first` on as their
positions, one after the other. -/
def placeAll (first : Nat) : List String → List Placed → List Placed
  | [], es => es
  | n :: ns, es => placeAll (first + 1) ns (place n first es)

/-- Columns in the order of their positions. -/
def inOrder (es : List Placed) : List Placed :=
  es.mergeSort fun a b => a.position ≤ b.position

end Placed

/-- **A model by name.** -/
@[ext]
structure KeyedModel where
  raw : RawSpec
  /-- The columns the filter mode shows, one for each name, in no order. -/
  entries : List Placed
  mode : FilterMode
  /-- Whether columns that turn up later are kept. -/
  keepUnknown : Bool
  /-- Where columns that turn up later are put. -/
  anchor : Nat
deriving DecidableEq

namespace KeyedModel

/-! ### Models and keyed models -/

/-- The keyed model of columns in output order. Of two columns of one name the second
counts. -/
def ofColumns (raw : RawSpec) (columns : List Transformation) (mode : FilterMode)
    (keepUnknown : Bool) (anchor : Nat) : KeyedModel :=
  let entries := (Placed.numbered columns).foldl (fun es e => e.insert es) []
  ⟨raw, entries, mode, keepUnknown, min anchor columns.length⟩

/-- A model, by name. -/
def ofModel (m : Model) : KeyedModel :=
  ofColumns m.raw m.columns m.mode m.keepUnknown m.anchor

/-- The columns in output order. -/
def ordered (k : KeyedModel) : List Placed :=
  Placed.inOrder k.entries

/-- **The model that a keyed model stands for.** -/
def toModel (k : KeyedModel) : Model :=
  ⟨k.raw, k.ordered.map Placed.settings, k.mode, k.keepUnknown, k.anchor⟩

/-- The column of a name. -/
def find? (k : KeyedModel) (name : String) : Option Placed :=
  k.entries.find? fun e => e.name = name

/-! ### Calls about one column -/

/-- Changes the settings of a column that has to be there; the change may fail. -/
def edit (k : KeyedModel) (name : String) (f : Transformation → Except Fault Transformation) :
    Except Fault Unit × KeyedModel :=
  match k.find? name with
  | none => (.error (.unknownColumn name), k)
  | some e =>
    match f e.settings with
    | .error fault => (.error fault, k)
    | .ok t =>
      (.ok (), { k with entries := k.entries.map fun e =>
        if e.name = name then { e with settings := t } else e })

/-- Keeps a column or drops it. -/
def setKeep (k : KeyedModel) (name : String) (keep : Bool) : Except Fault Unit × KeyedModel :=
  k.edit name fun t => .ok { t with keep := keep }

/-- Gives a column another output name. Names may collide for a while. -/
def rename (k : KeyedModel) (name outputName : String) : Except Fault Unit × KeyedModel :=
  k.edit name fun t => .ok { t with outputName := outputName }

/-- Converts a column along another path, which its type has to offer. -/
def setPath (k : KeyedModel) (name : String) (path : ConversionPath) :
    Except Fault Unit × KeyedModel :=
  k.edit name (·.along path)

/-- Gives a column the settings of a column nobody has edited. Its position stays. -/
def reset (k : KeyedModel) (name : String) : Except Fault Unit × KeyedModel :=
  k.edit name fun t => .ok (Transformation.standard t.column true)

/-- **Moves a column to a position,** and to the last one when there are fewer: its name is
put between the other names in output order, and all positions are given anew. -/
def moveTo (k : KeyedModel) (name : String) (position : Nat) : Except Fault Unit × KeyedModel :=
  match k.find? name with
  | none => (.error (.unknownColumn name), k)
  | some _ =>
    let others := (k.ordered.map Placed.name).filter (· ≠ name)
    let order := others.insertIdx (min position others.length) name
    (.ok (), { k with entries := Placed.placeAll 0 order k.entries })

/-! ### Calls about columns that turn up later -/

/-- Whether columns that turn up later are kept. -/
def setKeepUnknown (k : KeyedModel) (keep : Bool) : KeyedModel :=
  { k with keepUnknown := keep }

/-- Where columns that turn up later are put; the end at most. -/
def setAnchor (k : KeyedModel) (position : Nat) : KeyedModel :=
  { k with anchor := min position k.entries.length }

/-! ### Another raw spec, another mode -/

/-- **A keyed model over another raw spec, under a mode.** The new columns that are found
are ranked by their positions, the ranks in front of the anchor are counted, the new columns
that are not found are put behind these, and all are numbered anew. -/
def reslot (k : KeyedModel) (raw : RawSpec) (mode : FilterMode) : KeyedModel :=
  let new := raw.relevant mode
  let carried := new.filterMap fun c => (k.find? c.name).map (·.carryOver c)
  let discovered := new.filter fun c => (k.find? c.name).isNone
  let ranked := Placed.inOrder carried
  let anchor := ranked.countP fun e => e.position < k.anchor
  let old := ranked.map Placed.settings
  ofColumns raw
    (old.take anchor ++ (discovered.map fun c => Transformation.standard c k.keepUnknown) ++
      old.drop anchor)
    mode k.keepUnknown anchor

/-- **A keyed model over another raw spec,** under its own mode. -/
def reconcile (k : KeyedModel) (raw : RawSpec) : KeyedModel :=
  k.reslot raw k.mode

/-- **Switches the filter mode.** -/
def setMode (k : KeyedModel) (mode : FilterMode) : Except Fault Unit × KeyedModel :=
  if mode = k.mode then (.ok (), k)
  else if Model.lacksShared mode k.raw then (.error .emptyIntersection, k)
  else (.ok (), k.reslot k.raw mode)

end KeyedModel

end OneTable
