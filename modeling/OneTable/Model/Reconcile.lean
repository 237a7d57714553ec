import OneTable.Model.Basic

/-!
# Reconciliation

When the items of a group change, its model is carried over to the new raw spec. What
the user decided about a column stays, and so does the order of the columns that are
still there; columns that are gone are dropped; columns that are new form one block,
in raw order, at the anchor. The anchor stays in front of the new block, so that the
columns of a later reconciliation come before those of an earlier one.

* `OneTable.Transformation.carryOver` – the settings of a column whose type may have
  changed;
* `OneTable.Model.ranked`, `OneTable.Model.discovered` – the columns that are still there,
  and those that are new;
* `OneTable.Model.reslot` – a model over another raw spec or under another mode;
* `OneTable.Model.reconcile` – the same, keeping the mode.
-/

namespace OneTable

/-- **Carries settings over to the new column of the same name.** If its type changed,
the old destination is kept where a path leads to it, and else the standard path is
taken. -/
def Transformation.carryOver (old : Transformation) (new : Column) : Transformation :=
  let path :=
    if old.column.type = new.type then old.path
    else (ConversionPath.toward? new.type old.path.destination).getD
      (ConversionPath.standard new.type)
  { old with column := new, path := path }

namespace Model

/-- The position of a column in the output, with its settings. -/
def placed? (m : Model) (name : String) : Option (Nat × Transformation) :=
  match m.position? name, m.get? name with
  | some i, some t => some (i, t)
  | _, _ => none

/-- The new columns that a model has, in raw order: each carried over, with the position
it had. -/
def carried (m : Model) (new : List Column) : List (Nat × Transformation) :=
  new.filterMap fun c => (m.placed? c.name).map fun (i, t) => (i, t.carryOver c)

/-- The new columns that a model has, ranked by the positions they had. -/
def ranked (m : Model) (new : List Column) : List (Nat × Transformation) :=
  (m.carried new).mergeSort fun a b => a.1 ≤ b.1

/-- The new columns that a model does not have, with standard settings. -/
def discovered (m : Model) (new : List Column) : List Transformation :=
  (new.filter fun c => (m.get? c.name).isNone).map fun c =>
    Transformation.standard c m.keepUnknown

/-- **A model over another raw spec, under a mode.** The columns that are still there are
ranked by the positions they had, and those that were in front of the anchor are counted:
so many ranks come first, the new columns follow, and then come the other ranks. -/
def reslot (m : Model) (raw : RawSpec) (mode : FilterMode) : Model :=
  let new := raw.relevant mode
  let ranked := m.ranked new
  let anchor := ranked.countP fun r => r.1 < m.anchor
  let old := ranked.map Prod.snd
  ⟨raw, old.take anchor ++ m.discovered new ++ old.drop anchor, mode, m.keepUnknown, anchor⟩

/-- **A model over another raw spec,** under its own mode. -/
def reconcile (m : Model) (raw : RawSpec) : Model :=
  m.reslot raw m.mode

end Model

end OneTable
