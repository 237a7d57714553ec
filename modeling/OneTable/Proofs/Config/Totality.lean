import OneTable.Proofs.Config.Acceptance

/-!
# Carrying over never fails for the sake of the configuration

A configuration that is carried over to other items is loaded into a model, the model is
reconciled, and what is rendered from it has to pass the check that every draft has to pass. The
configuration may be an odd one: its order may mention few columns, it may keep what its mode does
not show, and its paths need not be among those that are offered. And the items may have changed in
every way; no column need have the type that its path was chosen for.

None of this is found fault with. Of the old configuration only those things reach the check that
loading and reconciling have put in order: the columns of the reconciled model are those that the
mode shows of the *new* items, every path starts at the *new* type of its column – the one it had,
if the type is the old one, and else one that is taken from what the new type offers – and the places
that are not shown are put behind the others. So the check is passed, and what can fail is what was
asked before: whether there is an item, and whether the items share a column if the mode asks for
one.

* `OneTable.Model.Aligned.rawOrder_perm`, `OneTable.Model.Aligned.take_rawOrder` – the order of a
  rendered model;
* `OneTable.Config.Aligned.reconcile_eq` – what carrying over comes to, failures included;
* `OneTable.Config.CarriesTo` – what is carried over, and what the result looks like;
* `OneTable.Config.Accepted.reconcile_total` – **carrying over fails for two reasons only**.
-/

namespace OneTable

/-! ### What is rendered -/

namespace Model.Aligned

variable {m : Model} {rootId : String} {items : Items} (h : m.Aligned)
include h

/-- **The order of a rendered model has every place of the union.** -/
theorem rawOrder_perm : m.rawOrder.Perm (List.range m.raw.union.length) := by
  refine (List.perm_ext_iff_of_nodup h.nodup_rawOrder List.nodup_range).2 fun i => ?_
  rw [List.mem_range]
  refine ⟨h.lt_of_mem_rawOrder i, fun hi => ?_⟩
  rw [rawOrder_eq, List.mem_append]
  by_cases hmem : i ∈ m.places
  · exact Or.inl hmem
  · exact Or.inr (List.mem_filter.2 ⟨List.mem_range.2 hi, decide_eq_true hmem⟩)

/-- The columns are found at their places. -/
theorem map_places :
    m.places.map (m.raw.union[·]?) = (m.columns.map Transformation.column).map some := by
  rw [places, List.map_filterMap, List.map_map, ← List.filterMap_eq_map]
  refine List.filterMap_congr fun t ht => ?_
  obtain ⟨i, hi, hget⟩ := h.exists_place ht
  rw [hi, Option.map_some, hget]
  rfl

/-- **The first entries of the order are the places of the columns.** -/
theorem take_rawOrder : m.rawOrder.take (m.raw.relevant m.mode).length = m.places := by
  have hlength : m.places.length = (m.raw.relevant m.mode).length := by
    have hmap := congrArg List.length h.map_places
    rw [List.length_map, List.length_map, List.length_map] at hmap
    exact hmap.trans h.length_columns
  rw [rawOrder_eq, ← hlength, List.take_left]

/-- A column that the mode does not show is not kept. -/
theorem keep_setting_of_hidden {d : Column} (hd : d ∈ m.raw.union)
    (hhidden : d ∉ m.raw.relevant m.mode) : (m.setting d).keep = false := by
  have hname : d.name ∉ m.names := fun hn => by
    obtain ⟨u, hu, hun⟩ := List.mem_map.1 (h.names_perm.mem_iff.1 hn)
    have hshown : u ∈ m.raw.union := (m.raw.relevant_sublist m.mode).subset hu
    exact hhidden (eq_of_key_eq m.raw.distinct hshown hd hun ▸ hu)
  rw [setting_of_notMem hname]

end Model.Aligned

namespace Config

/-- **What carrying a configuration over leads to.** -/
structure CarriesTo (c : Config) (items : Items) (c' : Config) : Prop where
  rootId_eq : c'.rootId = c.rootId
  mode_eq : c'.mode = c.mode
  keepUnknown_eq : c'.keepUnknown = c.keepUnknown
  items_eq : c'.items = items
  raw_eq : RawSpec.ofItems? items = some c'.raw
  /-- Every column of the union has a place in the order. -/
  order_perm : c'.order.Perm (List.range c'.raw.union.length)
  /-- The columns that the mode shows come first. -/
  shown_first : ∃ shown : List Column, shown.Perm (c'.raw.relevant c'.mode) ∧
    (c'.order.take (c'.raw.relevant c'.mode).length).map (c'.raw.union[·]?) = shown.map some
  /-- A column that the mode does not show is not kept. -/
  hidden_unkept : ∀ (i : ℕ) (d : Column), c'.raw.union[i]? = some d →
    d ∉ c'.raw.relevant c'.mode → c'.keepFlags[i]? = some false

variable {c : Config} {items : Items}

section Carried

variable (h : c.Aligned)
include h

/-- The model that is rendered is aligned with the raw spec of the new items, and every path starts
at the new type of its column. -/
theorem Aligned.carried (raw : RawSpec) : ((Model.ofConfig c).reconcile raw).Aligned ∧
    ((Model.ofConfig c).reconcile raw).Sourced :=
  have hdistinct := (Model.aligned_ofConfig h).distinct
  ⟨Model.aligned_reslot hdistinct raw c.mode,
    Model.sourced_reslot hdistinct (Model.sourced_ofConfig h) raw c.mode⟩

/-- **What carrying a configuration over comes to,** failures included. -/
theorem Aligned.reconcile_eq (items : Items) : c.reconcile items =
    match RawSpec.ofItems? items with
    | none => .error .emptySourceGroup
    | some raw =>
      if Model.lacksShared c.mode raw then .error .emptyIntersection
      else .ok (((Model.ofConfig c).reconcile raw).rendering c.rootId items) := by
  rcases hraw : RawSpec.ofItems? items with _ | raw
  · rw [reconcile, rawSpec, hraw]
    rfl
  · obtain ⟨halign, hsourced⟩ := h.carried raw
    have hrender : ((Model.ofConfig c).reconcile raw).toConfig c.rootId items = .ok _ :=
      Model.toConfig_eq_ok halign hsourced hraw
    have hsteps : c.reconcile items = if Model.lacksShared c.mode raw then
        .error .emptyIntersection
      else ((Model.ofConfig c).reconcile raw).toConfig c.rootId items := by
      rw [reconcile, rawSpec, hraw]
      rfl
    rw [hsteps, hrender]

/-- What is rendered is what carrying over should lead to. -/
theorem Aligned.carriesTo_rendering {raw : RawSpec} (hraw : RawSpec.ofItems? items = some raw) :
    c.CarriesTo items (((Model.ofConfig c).reconcile raw).rendering c.rootId items) := by
  have halign := (h.carried raw).1
  exact {
    rootId_eq := rfl
    mode_eq := rfl
    keepUnknown_eq := rfl
    items_eq := rfl
    raw_eq := hraw
    order_perm := halign.rawOrder_perm
    shown_first := ⟨_, halign.columns_perm,
      (congrArg (List.map _) halign.take_rawOrder).trans halign.map_places⟩
    hidden_unkept := fun i d hd hhidden => by
      have hget : ((Model.ofConfig c).reconcile raw).raw.union[i]? = some d := hd
      have hkeep := halign.keep_setting_of_hidden (List.mem_of_getElem? hget) hhidden
      rw [keepFlags, Model.rendering, List.getElem?_map, List.getElem?_map, hget, Option.map_some,
        Option.map_some, hkeep] }

end Carried

/-! ### When there is nothing to show -/

/-- **No column is shared:** the mode asks for columns that occur in every item, and no name
does. -/
def LacksSharedName (mode : FilterMode) (items : Items) : Prop :=
  mode = .intersection ∧ ¬∃ n, ∀ e ∈ items.entries, n ∈ e.2.names

theorem lacksShared_eq_true_iff {mode : FilterMode} {raw : RawSpec}
    (hraw : RawSpec.ofItems? items = some raw) :
    Model.lacksShared mode raw = true ↔ LacksSharedName mode items := by
  rw [Model.lacksShared, Bool.and_eq_true, decide_eq_true_iff, List.isEmpty_iff, LacksSharedName,
    ← RawSpec.intersection_ne_nil_iff hraw, not_not]

/-- **Carrying over fails for two reasons only.** For a configuration that is accepted, and for any
items at all: without items there is nothing to read from; with items that share no column there is
nothing to show, if the mode shows shared columns only; and else there is a result, for the new
items and under the old mode, whose order has every place, those of the columns that the mode shows
first, and that keeps nothing else. No fault is found with the configuration. -/
theorem Accepted.reconcile_total (h : c.Accepted) (items : Items) :
    (c.reconcile items = .error .emptySourceGroup ↔ items.entries = []) ∧
    (c.reconcile items = .error .emptyIntersection ↔
      items.entries ≠ [] ∧ LacksSharedName c.mode items) ∧
    (items.entries ≠ [] → ¬LacksSharedName c.mode items →
      ∃ c', c.reconcile items = .ok c' ∧ c.CarriesTo items c') ∧
    ∀ cause, c.reconcile items ≠ .error (.invalidConfig cause) := by
  rw [h.aligned.reconcile_eq]
  rcases hraw : RawSpec.ofItems? items with _ | raw
  case none =>
    have hnil := RawSpec.ofItems?_eq_none_iff.1 hraw
    simp [hnil]
  case some =>
    have hitems : items.entries ≠ [] := (RawSpec.ofItems?_eq_some_iff.1 hraw).1
    have hshared : Model.lacksShared c.mode raw = true ↔ LacksSharedName c.mode items :=
      lacksShared_eq_true_iff hraw
    by_cases hlacks : LacksSharedName c.mode items
    · simp [hitems, hlacks, hshared.2 hlacks]
    · have hcarries := h.aligned.carriesTo_rendering hraw
      simp [hitems, hlacks, mt hshared.1 hlacks, hcarries]

/-- A draft with a slot for a column that is not shown and none for the other, which moreover is to
be converted by a path that nobody offers. -/
def oddDraft : Draft :=
  { ordersDraft with
    paths := [⟨.integer, .guid, "odd"⟩, .standard .date]
    mode := .intersection
    order := some [1]
    keepUnknown := false }

/-- The configuration of that draft. -/
def oddConfig : Config :=
  oddDraft.configFor Model.ordersRaw

/-- Items in which no column has the type that it had. -/
def driftedGroup : Items :=
  .ofList [("north", ⟨[.untyped "note", .ofType "order" .string]⟩),
    ("south", ⟨[.ofType "order" .float, .ofType "day" .boolean]⟩)]

/-- Items that share no column. -/
def strangersGroup : Items where
  entries := [("north", ⟨[.ofType "order" .integer]⟩), ("south", ⟨[.ofType "day" .date]⟩)]
  distinct := by simp

theorem Accepted.reconcile_total_odd :
    oddConfig.Accepted ∧
    oddConfig.reconcile .empty = .error .emptySourceGroup ∧
    oddConfig.reconcile strangersGroup = .error .emptyIntersection ∧
    ∃ c', oddConfig.reconcile driftedGroup = .ok c' ∧ oddConfig.CarriesTo driftedGroup c' ∧
      c'.paths = [.standard .string, .standard .string, .standard .boolean] ∧
      c'.order = [1, 0, 2] ∧ c'.keepFlags = [false, true, false] := by
  have haccepted : oddConfig.Accepted := .built (d := oddDraft) (by decide +kernel)
  have hstrangers : LacksSharedName oddConfig.mode strangersGroup := by
    refine ⟨rfl, fun ⟨n, hn⟩ => ?_⟩
    have hnorth : n = "order" := List.mem_singleton.1 (hn _ (.head _))
    have hsouth : n = "day" := List.mem_singleton.1 (hn _ (.tail _ (.head _)))
    exact absurd (hnorth.symm.trans hsouth) (by decide)
  have hdrifted : ¬LacksSharedName oddConfig.mode driftedGroup := fun h =>
    h.2 ⟨"order", by decide⟩
  have hresult : (oddConfig.reconcile driftedGroup).toOption.map
      (fun c' => (c'.paths, c'.order, c'.keepFlags)) =
      some ([.standard .string, .standard .string, .standard .boolean], [1, 0, 2],
        [false, true, false]) := by
    decide +kernel
  obtain ⟨c', hc', hcarries⟩ := (haccepted.reconcile_total driftedGroup).2.2.1 (by decide) hdrifted
  rw [hc'] at hresult
  refine ⟨haccepted, (haccepted.reconcile_total .empty).1.2 rfl,
    (haccepted.reconcile_total strangersGroup).2.1.2 ⟨by decide, hstrangers⟩, c', hc', hcarries, ?_⟩
  simpa [Except.toOption] using hresult

end Config

end OneTable
