import OneTable.Model.Basic

/-!
# Configurations

A configuration is what is stored of a model: the items it was made for and, for every
column of the raw union in raw order, the settings of that column, together with the
order in which the columns fill the output. It is not edited in place: it is loaded
into a model, edited there, and rendered again.

* `OneTable.OutputColumn` – a column of the output;
* `OneTable.Setting`, `OneTable.Config` – the settings per union column, and the whole;
* `OneTable.Config.slots` – the columns of the output with what feeds them;
* `OneTable.Config.outputSchema` – their names and types, which fails on a repeated
  name;
* `OneTable.Config.isFor` – whether it was made for a root and a set of items.
-/

namespace OneTable

/-- A column of the output: its name and the type of its values. -/
structure OutputColumn where
  name : String
  type : ColumnType
deriving DecidableEq

/-- The settings of a column of the raw union. -/
structure Setting where
  rawName : String
  output : OutputColumn
  path : ConversionPath
  keep : Bool
deriving DecidableEq

/-- A stored configuration. -/
structure Config where
  rootId : String
  items : Items
  raw : RawSpec
  /-- One setting for every column of the raw union, in raw order. -/
  settings : List Setting
  /-- The places in the raw union of the columns that fill the output, in output order. -/
  order : List Nat
  mode : FilterMode
  keepUnknown : Bool
  anchor : Nat
deriving DecidableEq

/-- A column of the output with what feeds it. -/
structure Slot where
  rawIndex : Nat
  setting : Setting
deriving DecidableEq

namespace Config

/-! ### Lists over the raw union -/

/-- The output columns, in raw order. -/
def schema (c : Config) : List OutputColumn := c.settings.map Setting.output

/-- The conversion paths, in raw order. -/
def paths (c : Config) : List ConversionPath := c.settings.map Setting.path

/-- The raw names, in raw order. -/
def rawNames (c : Config) : List String := c.settings.map Setting.rawName

/-- The keep flags, in raw order. -/
def keepFlags (c : Config) : List Bool := c.settings.map Setting.keep

/-! ### The output -/

/-- The slot that a place of the raw union fills, when its column is kept. -/
def slot? (settings : List Setting) (i : Nat) : Option Slot :=
  match settings[i]? with
  | some s => if s.keep then some ⟨i, s⟩ else none
  | none => none

/-- **The columns of the output,** in output order. -/
def slots (c : Config) : List Slot :=
  c.order.filterMap (slot? c.settings)

/-- **The names and types of the output;** a name may not be used twice. -/
def outputSchema (c : Config) : Except Fault (List OutputColumn) :=
  let columns := c.slots.map fun s => s.setting.output
  match checkDistinct (columns.map OutputColumn.name) with
  | .error e => .error e
  | .ok () => .ok columns

/-- The conversion paths of the output, in output order. -/
def outputPaths (c : Config) : List ConversionPath :=
  c.slots.map fun s => s.setting.path

/-- **The configuration was made for exactly this root and these items,** in any order. -/
def isFor (c : Config) (rootId : String) (items : List String) : Bool :=
  c.rootId = rootId && items.length = c.items.length &&
    items.all (c.items.names.contains ·) && c.items.names.all (items.contains ·)

end Config

end OneTable
