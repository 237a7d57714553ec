import OneTable.Proofs.Config.Rendering

/-!
# Reconciling with what is known already

A user reconciles whenever the items may have changed, and most of the time they have not. Then
nothing may happen: no column may move, no setting may be lost, and the anchor may not creep
forward. Everything is computed anew all the same, so this has to be proved.

For a model that is aligned with its raw spec it is plain in the form of the three blocks. No
name is new, so the middle block is empty; every column is still there, as the very column that
it was, so its type has not changed and it keeps its path; and the outer blocks, cut at the
anchor, are put together again. A reconciliation with any raw spec leads to a model that is
aligned with *that* raw spec, and so doing the same again does nothing.

For configurations there is a way into the model and a way out of it around this, and for a
configuration that was rendered the two are inverse.

* `OneTable.Model.Aligned.reconcile_self` – a model is a fixed point of reconciling with its own
  raw spec;
* `OneTable.Config.Aligned.reconcile_items` – a configuration that is carried over to its own
  items is rendered from the model that it is loaded into;
* `OneTable.Model.reconcile_eq_self_of_reachable` – **reconciling is idempotent,** for every
  model that comes up, and so it is for the configurations that are rendered.
-/

namespace OneTable

/-- Settings that are carried over to the same column stay as they are. -/
theorem Transformation.carryOver_self (t : Transformation) : t.carryOver t.column = t := by
  rw [carryOver, if_pos rfl]

namespace Model

section Models

variable {m : Model}

/-- Columns that are all still listed, as the very columns that they were, stay as they are. -/
theorem carryBlock_eq_self {new : List Column} (hnew : (new.map Column.name).Nodup)
    {block : List Transformation} (h : ∀ t ∈ block, t.column ∈ new) :
    carryBlock new block = block := by
  rw [carryBlock]
  refine (List.filterMap_congr fun t ht => ?_).trans List.filterMap_some
  have hfind : new.find? (fun c => c.name = t.name) = some t.column :=
    (find?_key_eq_some_iff hnew).2 ⟨h t ht, rfl⟩
  rw [hfind, Option.map_some, t.carryOver_self]

/-- Columns of an aligned model are all still there. -/
theorem Aligned.carryBlock_self (h : m.Aligned) {block : List Transformation}
    (hblock : block ⊆ m.columns) : carryBlock (m.raw.relevant m.mode) block = block :=
  carryBlock_eq_self (m.raw.distinct_relevant m.mode) fun _ ht =>
    h.columns_perm.subset (List.mem_map_of_mem (hblock ht))

/-- An aligned model has every column that its mode shows. -/
theorem Aligned.discovered_self (h : m.Aligned) :
    m.discovered (m.raw.relevant m.mode) = [] := by
  rw [discovered, List.map_eq_nil_iff, List.filter_eq_nil_iff]
  intro c hc hnone
  have hmem : c.name ∈ m.names := h.names_perm.mem_iff.2 (List.mem_map_of_mem hc)
  exact get?_eq_none_iff.1 (Option.isNone_iff_eq_none.1 hnone) hmem

/-- **A model is a fixed point of reconciling with its own raw spec.** -/
theorem Aligned.reconcile_self (h : m.Aligned) : m.reconcile m.raw = m := by
  have hbefore : m.carriedBefore (m.raw.relevant m.mode) = m.columns.take m.anchor :=
    h.carryBlock_self (List.take_subset _ _)
  have hbehind : m.carriedBehind (m.raw.relevant m.mode) = m.columns.drop m.anchor :=
    h.carryBlock_self (List.drop_subset _ _)
  rw [reconcile, reslot_eq h.distinct, hbefore, hbehind, h.discovered_self, List.append_nil,
    List.take_append_drop, h.length_take_anchor]

/-- **Reconciling twice is reconciling once.** -/
theorem reconcile_reconcile (h : m.names.Nodup) (raw : RawSpec) :
    (m.reconcile raw).reconcile raw = m.reconcile raw :=
  (aligned_reslot h raw m.mode).reconcile_self

end Models

end Model

/-! ### Configurations -/

namespace Config

variable {c : Config}

/-- **A configuration that is carried over to its own items** is rendered from the model that it
is loaded into. -/
theorem Aligned.reconcile_items (h : c.Aligned)
    (hshared : Model.lacksShared c.mode c.raw = false) :
    c.reconcile c.items = .ok ((Model.ofConfig c).rendering c.rootId c.items) := by
  have hmodel := Model.aligned_ofConfig h
  refine reconcile_eq_ok_iff.2 ⟨c.raw, h.raw_eq, hshared, ?_⟩
  have hself : (Model.ofConfig c).reconcile c.raw = Model.ofConfig c := hmodel.reconcile_self
  rw [hself]
  exact Model.toConfig_eq_ok hmodel (Model.sourced_ofConfig h) h.raw_eq

end Config

/-! ### The models that come up -/

namespace Model

variable {m : Model}

/-- **Reconciling is idempotent, and it leaves alone what fits already,** for every model that
comes up: a second reconciliation with the same raw spec changes nothing, and neither does one
with the model's own. So a configuration that is rendered for items is itself what carrying it
over to these items gives, unless the mode asks for shared columns and there are none. -/
theorem reconcile_eq_self_of_reachable (h : m.ReachableFrom IsFresh) :
    (∀ raw, (m.reconcile raw).reconcile raw = m.reconcile raw) ∧ m.reconcile m.raw = m ∧
      ∀ rootId items, RawSpec.ofItems? items = some m.raw →
        lacksShared m.mode m.raw = false →
        ∃ c, m.toConfig rootId items = .ok c ∧ c.reconcile items = .ok c := by
  obtain ⟨halign, hoff⟩ := h.aligned_of_fresh
  refine ⟨reconcile_reconcile halign.distinct, halign.reconcile_self, ?_⟩
  intro rootId items hitems hshared
  have hrender : m.toConfig rootId items = .ok (m.rendering rootId items) :=
    toConfig_eq_ok halign hoff.sourced hitems
  have hback := Config.Aligned.reconcile_items (Draft.aligned_of_build hrender) hshared
  rw [ofConfig_rendering halign] at hback
  exact ⟨m.rendering rootId items, hrender, hback⟩

/-- A reconciliation that makes texts of the order numbers, and one that leaves them alone. -/
theorem reconcile_eq_self_of_reachable_orders :
    ordersShared.ReachableFrom IsFresh ∧
    (ordersShared.reconcile ordersRetyped).reconcile ordersRetyped =
      ordersShared.reconcile ordersRetyped ∧
    ordersShared.reconcile ordersRaw = ordersShared ∧
    RawSpec.ofItems? ordersGroup = some ordersShared.raw ∧
    lacksShared ordersShared.mode ordersShared.raw = false ∧
    ∃ c, ordersShared.toConfig "orders" ordersGroup = .ok c ∧
      c.reconcile ordersGroup = .ok c := by
  obtain ⟨htwice, hself, hconfig⟩ := reconcile_eq_self_of_reachable reachable_ordersShared
  exact ⟨reachable_ordersShared, htwice ordersRetyped, hself, ofItems?_ordersGroup, rfl,
    hconfig "orders" ordersGroup ofItems?_ordersGroup rfl⟩

end Model

end OneTable
