import Mathlib.Tactic.Common
import OneTable.Config.Model
import OneTable.Model.Edit

/-!
# Runs of a model

A user works on a model one call after the other: settings are changed, columns are moved,
the filter mode is switched, and from time to time the items change and the model is
reconciled. A call may be refused, and then the model stays as it was; that a session is left
with it is proved in `OneTable.Proofs.Model.Keyed`, where a call hands back a model in any case.
What is proved about all models that can come up in this way is proved along such a *run*: it
holds where the run starts, and every call keeps it.

* `OneTable.Edit` – a call, with `OneTable.Edit.apply`;
* `OneTable.Model.after`, `OneTable.Model.trace`, `OneTable.Model.run` – the model after one
  call, all models of a run, and the last of them;
* `OneTable.Model.KeptByCalls` – what every call keeps, which then holds in whole runs;
* `OneTable.Model.IsFresh`, `OneTable.Model.IsLoaded`, `OneTable.Model.Reachable` – where a
  run may start, and the models that come up;
* `OneTable.Model.ordersModel`, `OneTable.Model.ordersEdits` – a small run, for examples.
-/

namespace OneTable

/-! ### Calls -/

/-- A call that edits a model or carries it over to another raw spec. -/
inductive Edit
  | setKeep (name : String) (keep : Bool)
  | rename (name outputName : String)
  | setPath (name : String) (path : ConversionPath)
  | moveTo (name : String) (position : ℕ)
  | setKeepUnknown (keep : Bool)
  | setAnchor (position : ℕ)
  | setMode (mode : FilterMode)
  | reset (name : String)
  | reconcile (raw : RawSpec)

/-- What a call answers. -/
def Edit.apply (m : Model) : Edit → Except Fault Model
  | setKeep name keep => m.setKeep name keep
  | rename name outputName => m.rename name outputName
  | setPath name path => m.setPath name path
  | moveTo name position => m.moveTo name position
  | setKeepUnknown keep => .ok (m.setKeepUnknown keep)
  | setAnchor position => .ok (m.setAnchor position)
  | setMode mode => m.setMode mode
  | reset name => m.reset name
  | reconcile raw => .ok (m.reconcile raw)

namespace Model

/-! ### Runs -/

/-- The model that stands after a call. -/
def after (m : Model) (e : Edit) : Model :=
  match e.apply m with
  | .ok m' => m'
  | .error _ => m

/-- All models of a run, the first one included. -/
def trace (m : Model) : List Edit → List Model
  | [] => [m]
  | e :: es => m :: trace (m.after e) es

/-- The model at the end of a run. -/
def run (m : Model) : List Edit → Model
  | [] => m
  | e :: es => run (m.after e) es

/-- Every model of a run is the end of some run. -/
theorem exists_run_of_mem_trace {m m' : Model} {es : List Edit} (h : m' ∈ m.trace es) :
    ∃ es', m' = m.run es' := by
  induction es generalizing m with
  | nil => exact ⟨[], List.mem_singleton.1 h⟩
  | cons e es ih =>
    rcases List.mem_cons.1 h with rfl | h
    · exact ⟨[], rfl⟩
    · obtain ⟨es', rfl⟩ := ih h
      exact ⟨e :: es', rfl⟩

/-- **Every call that succeeds keeps a property** of models. -/
def KeptByCalls (P : Model → Prop) : Prop :=
  ∀ (m : Model) (e : Edit) (m' : Model), P m → e.apply m = .ok m' → P m'

variable {P : Model → Prop}

/-- What every successful call keeps, every call keeps. -/
theorem KeptByCalls.after (step : KeptByCalls P) {m : Model} (h : P m) (e : Edit) :
    P (m.after e) := by
  rw [Model.after]
  split
  · next hm => exact step m e _ h hm
  · exact h

/-- **What every successful call keeps holds at the end of a run** where it holds at the
start. -/
theorem KeptByCalls.run (step : KeptByCalls P) {m : Model} (h : P m) (es : List Edit) :
    P (m.run es) := by
  induction es generalizing m with
  | nil => exact h
  | cons e es ih => exact ih (step.after h e)

/-! ### Where a run starts -/

/-- A model of a raw spec nobody has edited. -/
def IsFresh (m : Model) : Prop :=
  ∃ raw mode, fresh raw mode = .ok m

/-- A model that was loaded from a configuration. Every configuration there is has been
made of a draft. -/
def IsLoaded (m : Model) : Prop :=
  ∃ d c, Draft.build d = .ok c ∧ m = ofConfig c

/-- **The models that come up** in runs from a kind of model. -/
def ReachableFrom (start : Model → Prop) (m : Model) : Prop :=
  ∃ m₀ es, start m₀ ∧ m = run m₀ es

/-- The models that come up in runs from a model that is fresh or loaded. -/
def Reachable (m : Model) : Prop :=
  m.ReachableFrom fun m₀ => m₀.IsFresh ∨ m₀.IsLoaded

/-- What holds where runs start, and what every successful call keeps, holds of every model
that comes up. -/
theorem KeptByCalls.reachable (step : KeptByCalls P) {start : Model → Prop}
    (init : ∀ m, start m → P m) {m : Model} (h : m.ReachableFrom start) : P m := by
  obtain ⟨m₀, es, h₀, rfl⟩ := h
  exact step.run (init m₀ h₀) es

/-! ### A run over two items -/

/-- Two items that share an order number; only one has a date. -/
def ordersRaw : RawSpec where
  union := [Column.ofType "order" .integer, Column.ofType "day" .date]
  intersection := [Column.ofType "order" .integer]
  distinct := by simp [Column.ofType]
  shared := by simp

/-- The same group later: the order numbers have become texts, a place has come in, and the day
is gone. -/
def ordersRetyped : RawSpec where
  union := [Column.ofType "place" .string, Column.ofType "order" .string]
  intersection := [Column.ofType "place" .string, Column.ofType "order" .string]
  distinct := by simp [Column.ofType]
  shared := by simp

/-- The model of the two items before anybody edits it. -/
def ordersModel : Model :=
  ⟨ordersRaw, ordersRaw.union.map fun c => Transformation.standard c true, .union, true, 2⟩

theorem fresh_ordersRaw : fresh ordersRaw .union = .ok ordersModel := rfl

/-- A move, a call for a column that there is not, a switch of the mode, another raw spec. -/
def ordersEdits : List Edit :=
  [.moveTo "day" 0, .setKeep "customer" false, .setAnchor 1, .setMode .intersection,
    .reconcile ordersRetyped]

end Model

end OneTable
