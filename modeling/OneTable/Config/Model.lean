import OneTable.Config.Draft
import OneTable.Model.Reconcile

/-!
# Between models and configurations

A model is rendered as a configuration by giving every column of the raw union a
setting: the model's own for the columns it shows, and for the others a standard one
that is not kept. The columns the model does not show follow in the output order. A
configuration is loaded into a model by ranking the columns that its mode shows by
their slots; columns without a slot follow in raw order.

* `OneTable.Model.toConfig` – renders;
* `OneTable.Model.ofConfig` – loads;
* `OneTable.Config.fresh` – the configuration of items nobody has edited;
* `OneTable.Config.reconcile` – a configuration carried over to other items.
-/

namespace OneTable

namespace Model

/-- The setting of a union column in a model. -/
def setting (m : Model) (c : Column) : Setting :=
  match m.get? c.name with
  | some t => ⟨c.name, ⟨t.outputName, t.path.destination⟩, t.path, t.keep⟩
  | none =>
    let path := ConversionPath.standard c.type
    ⟨c.name, ⟨c.name, path.destination⟩, path, false⟩

/-- The output order of a model, as places of the raw union: the columns of the model,
and behind them the others in raw order. -/
def rawOrder (m : Model) : List Nat :=
  let shown := m.columns.filterMap fun t => m.raw.unionIndex? t.name
  shown ++ (List.range m.raw.union.length).filter fun i => i ∉ shown

/-- The draft of a model's configuration for items. -/
def toDraft (m : Model) (rootId : String) (items : Items) : Draft :=
  let settings := m.raw.union.map m.setting
  { rootId := rootId
    items := items
    schema := settings.map Setting.output
    paths := settings.map Setting.path
    names := settings.map Setting.rawName
    order := some m.rawOrder
    keep := some (settings.map Setting.keep)
    mode := m.mode
    keepUnknown := m.keepUnknown
    anchor := some m.anchor }

/-- **Renders a model as a configuration** for the items its raw spec comes from. -/
def toConfig (m : Model) (rootId : String) (items : Items) : Except Fault Config :=
  (m.toDraft rootId items).build

/-- The places of the raw union that a mode shows, those with a slot first, in the order
of their slots. -/
def shownPlaces (c : Config) : List Nat :=
  let shown := (c.raw.relevant c.mode).filterMap fun d => c.raw.unionIndex? d.name
  c.order.filter (· ∈ shown) ++ shown.filter (· ∉ c.order)

/-- The transformation that a configuration holds for a place of the raw union. -/
def transformation? (c : Config) (i : Nat) : Option Transformation :=
  match c.raw.union[i]?, c.settings[i]? with
  | some d, some s => some ⟨d, s.path, s.keep, s.output.name⟩
  | _, _ => none

/-- **Loads a configuration into a model.** -/
def ofConfig (c : Config) : Model :=
  let columns := (shownPlaces c).filterMap (transformation? c)
  ⟨c.raw, columns, c.mode, c.keepUnknown, min c.anchor columns.length⟩

end Model

namespace Config

/-- The raw spec of items, of which there has to be one. -/
def rawSpec (items : Items) : Except Fault RawSpec :=
  match RawSpec.ofItems? items with
  | none => .error .emptySourceGroup
  | some raw => .ok raw

/-- **The configuration of items nobody has edited.** -/
def fresh (rootId : String) (items : Items) (mode : FilterMode) : Except Fault Config := do
  let raw ← rawSpec items
  let model ← Model.fresh raw mode
  model.toConfig rootId items

/-- **Carries a configuration over to other items.** Its root and its mode stay. -/
def reconcile (c : Config) (items : Items) : Except Fault Config := do
  let raw ← rawSpec items
  if Model.lacksShared c.mode raw then
    throw .emptyIntersection
  ((Model.ofConfig c).reconcile raw).toConfig c.rootId items

end Config

end OneTable
