import OneTable.Proofs.Config.Load

/-!
# A model comes back from its configuration

A model lists its columns in output order and knows each of them by name. Its configuration
knows them by their place in the raw union: five lists in raw order, and behind them the output
order as a list of places. To come back from there, the places are walked in output order, and
at each of them the union and the lists are looked up.

What makes this the way back is that the places of a model's columns (`OneTable.Model.places`)
are exactly the places that its filter mode shows, in another order. So the first part of the
output order is recognised by the mode alone, and what was put behind it – the columns that the
model does not have, with settings that nobody chose – is passed over. The lists have one entry
for each union column, whether the model shows it or not, and that is why the check of the draft
has nothing to object to.

* `OneTable.Model.places` – where the columns of a model stand in the raw union, with
  `OneTable.Model.Aligned.places_perm`;
* `OneTable.Model.rendering` – the configuration of a model, with
  `OneTable.Model.toConfig_eq_ok`: **rendering succeeds**;
* `OneTable.Model.ofConfig_rendering` – the way back;
* `OneTable.Model.ofConfig_toConfig` – **rendering a model and loading it again** gives the
  model, for every model that comes up.
-/

namespace OneTable

namespace Model

variable {m : Model} {rootId : String} {items : Items}

/-! ### Places -/

/-- The places in the raw union of the columns of a model, in output order. -/
def places (m : Model) : List ℕ :=
  m.columns.filterMap fun t => m.raw.unionIndex? t.name

/-- The places in the raw union of the columns that a model does not have, in raw order. -/
def hiddenPlaces (m : Model) : List ℕ :=
  (List.range m.raw.union.length).filter (· ∉ m.places)

/-- The output order has the columns of the model first. -/
theorem rawOrder_eq (m : Model) : m.rawOrder = m.places ++ m.hiddenPlaces := rfl

namespace Aligned

variable (h : m.Aligned)
include h

/-- A column of the model is found in the union, at its place. -/
theorem exists_place {t : Transformation} (ht : t ∈ m.columns) :
    ∃ i, m.raw.unionIndex? t.name = some i ∧ m.raw.union[i]? = some t.column :=
  RawSpec.getElem?_of_unionIndex? (h.columns_perm.subset (List.mem_map_of_mem ht))

/-- **The places of the columns are those that the mode shows,** in output order. -/
theorem places_perm : m.places.Perm (m.raw.shownIndices m.mode) := by
  have hplaces : m.places =
      (m.columns.map Transformation.column).filterMap fun d => m.raw.unionIndex? d.name := by
    rw [List.filterMap_map]
    rfl
  rw [hplaces]
  exact h.columns_perm.filterMap _

theorem mem_places_iff {i : ℕ} : i ∈ m.places ↔ i ∈ m.raw.shownIndices m.mode :=
  h.places_perm.mem_iff

/-- Every place that the output order mentions is one of the union. -/
theorem lt_of_mem_rawOrder : ∀ i ∈ m.rawOrder, i < m.raw.union.length := by
  intro i hi
  rw [rawOrder_eq] at hi
  rcases List.mem_append.1 hi with hi | hi
  · exact RawSpec.lt_of_mem_shownIndices (h.mem_places_iff.1 hi)
  · exact List.mem_range.1 (List.mem_filter.1 hi).1

/-- The output order mentions no place twice. -/
theorem nodup_rawOrder : m.rawOrder.Nodup := by
  have hplaces : m.places.Nodup := h.places_perm.nodup_iff.2 RawSpec.nodup_shownIndices
  rw [rawOrder_eq]
  refine List.nodup_append.2 ⟨hplaces, List.nodup_range.filter _, fun i hi j hj hij => ?_⟩
  exact of_decide_eq_true (List.mem_filter.1 hj).2 (hij ▸ hi)

end Aligned

/-! ### The settings of the union columns -/

theorem rawName_setting (d : Column) : (m.setting d).rawName = d.name := by
  rw [setting]
  split <;> rfl

/-- A column that the model has is given the settings of the model. -/
theorem setting_of_mem (hm : m.names.Nodup) {t : Transformation} (ht : t ∈ m.columns) :
    m.setting t.column =
      ⟨t.name, ⟨t.outputName, t.path.destination⟩, t.path, t.keep⟩ := by
  have hget : m.get? t.column.name = some t := (get?_eq_some_iff hm).2 ⟨ht, rfl⟩
  rw [setting, hget]
  rfl

/-- A column that the model does not have is not kept. -/
theorem setting_of_notMem {d : Column} (hd : d.name ∉ m.names) :
    m.setting d =
      ⟨d.name, ⟨d.name, d.type⟩, ConversionPath.standard d.type, false⟩ := by
  rw [setting, get?_eq_none_iff.2 hd]
  rfl

/-- **The path of a setting starts at the type of its column.** -/
theorem source_setting (h : m.Aligned) (hs : m.Sourced) {d : Column} (hd : d ∈ m.raw.union) :
    (m.setting d).path.source = d.type := by
  by_cases hn : d.name ∈ m.names
  · obtain ⟨t, ht, hname⟩ := List.mem_map.1 hn
    -- the column of the name is the raw column
    have hcolumn : t.column = d := Option.some.inj
      ((h.unionColumn?_eq ht).symm.trans (m.raw.unionColumn?_eq_some_iff.2 ⟨hd, hname.symm⟩))
    rw [← hcolumn, setting_of_mem h.distinct ht]
    exact hs t ht
  · rw [setting_of_notMem hn]
    rfl

/-! ### Rendering -/

/-- **The configuration of a model.** -/
def rendering (m : Model) (rootId : String) (items : Items) : Config where
  rootId := rootId
  items := items
  raw := m.raw
  settings := m.raw.union.map m.setting
  order := m.rawOrder
  mode := m.mode
  keepUnknown := m.keepUnknown
  anchor := m.anchor

/-- The draft of a model fits its raw spec. -/
theorem Aligned.fits_toDraft (h : m.Aligned) (hs : m.Sourced) :
    (m.toDraft rootId items).Fits m.raw where
  schema_length := by rw [toDraft, List.length_map, List.length_map]
  names_eq := List.map_map.trans (List.map_congr_left fun d _ => rawName_setting d)
  sources_eq := by
    rw [toDraft, List.map_map, List.map_map]
    exact List.map_congr_left fun d hd => source_setting h hs hd
  keep_length := by
    rw [Draft.keepFor, toDraft, Option.getD_some, List.length_map, List.length_map]
  order_lt := h.lt_of_mem_rawOrder
  order_nodup := h.nodup_rawOrder

/-- The number of columns is the number of columns shown. -/
theorem Aligned.length_columns (h : m.Aligned) :
    m.columns.length = (m.raw.relevant m.mode).length := by
  rw [← h.columns_perm.length_eq, List.length_map]

/-- **Rendering an aligned model succeeds,** for items that have its raw spec. -/
theorem toConfig_eq_ok (h : m.Aligned) (hs : m.Sourced)
    (hitems : RawSpec.ofItems? items = some m.raw) :
    m.toConfig rootId items = .ok (m.rendering rootId items) := by
  refine Draft.build_eq_ok_iff.2 ⟨m.raw, hitems, h.fits_toDraft hs, ?_⟩
  have hsettings : Draft.settings ((m.raw.union.map m.setting).map Setting.rawName)
      ((m.raw.union.map m.setting).map Setting.output)
      ((m.raw.union.map m.setting).map Setting.path)
      ((m.raw.union.map m.setting).map Setting.keep) = m.raw.union.map m.setting :=
    Draft.settings_map _
  -- the anchor is a place among the columns, so that it is not moved
  have hanchor : min m.anchor (m.raw.relevant m.mode).length = m.anchor :=
    Nat.min_eq_left (h.length_columns ▸ h.anchor_le)
  simp only [rendering, Draft.configFor, toDraft, Draft.keepFor, Draft.orderFor,
    Option.getD_some, hsettings, hanchor]

/-! ### The way back -/

section Loading

variable (h : m.Aligned)
include h

/-- **The columns with a slot that the mode shows are those of the model,** in output order,
and none is left without a slot. -/
theorem shownPlaces_rendering : shownPlaces (m.rendering rootId items) = m.places := by
  have hshown : m.places.filter (· ∈ m.raw.shownIndices m.mode) = m.places :=
    List.filter_eq_self.2 fun i hi => decide_eq_true (h.mem_places_iff.1 hi)
  have hhidden : m.hiddenPlaces.filter (· ∈ m.raw.shownIndices m.mode) = [] := by
    refine List.filter_eq_nil_iff.2 fun i hi hshown => ?_
    exact of_decide_eq_true (List.mem_filter.1 hi).2
      (h.mem_places_iff.2 (of_decide_eq_true hshown))
  have hrest : (m.raw.shownIndices m.mode).filter (· ∉ m.rawOrder) = [] := by
    refine List.filter_eq_nil_iff.2 fun i hi hout => ?_
    exact of_decide_eq_true hout (List.mem_append_left _ (h.mem_places_iff.2 hi))
  calc shownPlaces (m.rendering rootId items)
      = m.rawOrder.filter (· ∈ m.raw.shownIndices m.mode) ++
          (m.raw.shownIndices m.mode).filter (· ∉ m.rawOrder) := shownPlaces_eq _
    _ = (m.places ++ m.hiddenPlaces).filter (· ∈ m.raw.shownIndices m.mode) := by
        rw [hrest, List.append_nil, rawOrder_eq]
    _ = m.places := by
        rw [List.filter_append, hshown, hhidden, List.append_nil]

/-- What is loaded for the place of a column is the column with its settings. -/
theorem transformation?_rendering {t : Transformation} (ht : t ∈ m.columns) :
    (m.raw.unionIndex? t.name).bind (transformation? (m.rendering rootId items)) = some t := by
  obtain ⟨i, hi, hget⟩ := h.exists_place ht
  have hsetting : (m.rendering rootId items).settings[i]? = some (m.setting t.column) := by
    rw [rendering, List.getElem?_map, hget, Option.map_some]
  rw [hi, Option.bind_some]
  refine transformation?_eq_some_iff.2 ⟨t.column, m.setting t.column, hget, hsetting, ?_⟩
  rw [setting_of_mem h.distinct ht]

/-- **An aligned model comes back from its configuration.** -/
theorem ofConfig_rendering : ofConfig (m.rendering rootId items) = m := by
  have hcolumns : (shownPlaces (m.rendering rootId items)).filterMap
      (transformation? (m.rendering rootId items)) = m.columns := by
    rw [shownPlaces_rendering h, places, List.filterMap_filterMap]
    refine (List.filterMap_congr fun t ht => ?_).trans List.filterMap_some
    exact transformation?_rendering h ht
  have hanchor : min m.anchor m.columns.length = m.anchor := Nat.min_eq_left h.anchor_le
  rw [ofConfig, hcolumns]
  simp only [rendering, hanchor]

end Loading

/-! ### The models that come up -/

/-- **Rendering a model and loading it again gives the model,** for every model that comes up,
every root and all items that have its raw spec. -/
theorem ofConfig_toConfig (h : m.ReachableFrom IsFresh)
    (hitems : RawSpec.ofItems? items = some m.raw) (rootId : String) :
    ∃ c, m.toConfig rootId items = .ok c ∧ ofConfig c = m := by
  obtain ⟨halign, hoff⟩ := h.aligned_of_fresh
  exact ⟨m.rendering rootId items, toConfig_eq_ok halign hoff.sourced hitems,
    ofConfig_rendering halign⟩

/-- The two items of the run; only the east has a day. -/
def ordersGroup : Items where
  entries := [("east", ⟨[Column.ofType "order" .integer, Column.ofType "day" .date]⟩),
    ("west", ⟨[Column.ofType "order" .integer]⟩)]
  distinct := by simp

theorem ofItems?_ordersGroup : RawSpec.ofItems? ordersGroup = some ordersRaw := by
  decide +kernel

/-- The model when it shows the shared columns only, so that the day is behind the others. -/
def ordersShared : Model :=
  ordersModel.run (ordersEdits.take 4)

theorem reachable_ordersShared : ordersShared.ReachableFrom IsFresh :=
  ⟨ordersModel, ordersEdits.take 4, ⟨ordersRaw, .union, fresh_ordersRaw⟩, rfl⟩

theorem ofConfig_toConfig_orders :
    ordersShared.ReachableFrom IsFresh ∧
    RawSpec.ofItems? ordersGroup = some ordersShared.raw ∧
    ∃ c, ordersShared.toConfig "orders" ordersGroup = .ok c ∧ ofConfig c = ordersShared :=
  ⟨reachable_ordersShared, ofItems?_ordersGroup,
    ofConfig_toConfig reachable_ordersShared ofItems?_ordersGroup "orders"⟩

end Model

end OneTable
