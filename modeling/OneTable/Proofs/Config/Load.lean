import OneTable.Config.Model
import OneTable.Proofs.Config.Build
import OneTable.Proofs.Model.Aligned

/-!
# Models from configurations, configurations from models

A configuration numbers the columns of the raw union and says in which order they fill the
output; a model lists its columns in that order. Loading a configuration ranks the columns
that its mode shows, those with a slot first, and looks up the settings of each. What has to
be seen is that nothing is lost on the way: the ranks are a permutation of the places shown,
and at every place there is a column and there are settings.

* `OneTable.Model.shownPlaces_perm` – the ranks are the places of the columns shown;
* `OneTable.Model.aligned_ofConfig` – **a loaded model is aligned**;
* `OneTable.Config.Offered` – every path of a configuration is offered, with
  `OneTable.Model.offered_ofConfig` and `OneTable.Model.offered_of_toConfig`: the two ways
  keep this;
* `OneTable.Config.fresh_eq_ok_iff`, `OneTable.Config.reconcile_eq_ok_iff` – when there is a
  fresh configuration, and one that is carried over.
-/

namespace OneTable

/-- Every path of a configuration is one that its source offers. -/
def Config.Offered (c : Config) : Prop :=
  ∀ p ∈ c.paths, p ∈ ConversionPath.available p.source

namespace RawSpec

/-- The places in the union of the columns that a mode shows. -/
def shownIndices (raw : RawSpec) (mode : FilterMode) : List ℕ :=
  (raw.relevant mode).filterMap fun d => raw.unionIndex? d.name

variable {raw : RawSpec} {mode : FilterMode}

/-- A column shown is found at its place. -/
theorem getElem?_of_unionIndex? {d : Column} (hd : d ∈ raw.relevant mode) :
    ∃ i, raw.unionIndex? d.name = some i ∧ raw.union[i]? = some d := by
  obtain ⟨i, hi⟩ := List.mem_iff_getElem?.1 ((raw.relevant_sublist mode).subset hd)
  exact ⟨i, unionIndex?_of_getElem? hi, hi⟩

/-- A place that a mode shows is a place of the union. -/
theorem lt_of_mem_shownIndices {i : ℕ} (h : i ∈ raw.shownIndices mode) :
    i < raw.union.length := by
  obtain ⟨d, hd, hi⟩ := List.mem_filterMap.1 h
  obtain ⟨j, hj, hget⟩ := getElem?_of_unionIndex? hd
  obtain rfl : j = i := Option.some.inj (hj.symm.trans hi)
  exact (List.getElem?_eq_some_iff.1 hget).1

/-- **The columns at the places shown are the columns shown.** -/
theorem filterMap_shownIndices :
    (raw.shownIndices mode).filterMap (raw.union[·]?) = raw.relevant mode := by
  rw [shownIndices, List.filterMap_filterMap]
  refine (List.filterMap_congr fun d hd => ?_).trans List.filterMap_some
  obtain ⟨i, hi, hc⟩ := getElem?_of_unionIndex? hd
  rw [hi, Option.bind_some, hc]

/-- No place is shown twice, because the names there differ. -/
theorem nodup_shownIndices : (raw.shownIndices mode).Nodup := by
  -- the names at the places shown are the names shown, which differ
  have hnames : (raw.shownIndices mode).map ((raw.union.map Column.name)[·]?) =
      (raw.shownNames mode).map some := by
    rw [shownIndices, List.map_filterMap, shownNames, List.map_map]
    refine Eq.trans (List.filterMap_congr fun d hd => ?_)
      (congrFun (List.filterMap_eq_map (f := some ∘ Column.name)) (raw.relevant mode))
    obtain ⟨i, hi, hc⟩ := getElem?_of_unionIndex? hd
    rw [hi, Option.map_some, List.getElem?_map, hc]
    rfl
  refine List.Nodup.of_map ((raw.union.map Column.name)[·]?) ?_
  rw [hnames]
  exact (raw.distinct_relevant mode).map fun _ _ => Option.some.inj

end RawSpec

namespace Model

variable {c : Config}

/-! ### Loading -/

/-- The ranks are the places shown, those with a slot first. -/
theorem shownPlaces_eq (c : Config) : shownPlaces c =
    c.order.filter (· ∈ c.raw.shownIndices c.mode) ++
      (c.raw.shownIndices c.mode).filter (· ∉ c.order) := rfl

/-- **The ranks of a loaded model are the places of the columns shown.** -/
theorem shownPlaces_perm (h : c.order.Nodup) :
    (shownPlaces c).Perm (c.raw.shownIndices c.mode) := by
  have hshown : (c.raw.shownIndices c.mode).Nodup := RawSpec.nodup_shownIndices
  rw [shownPlaces_eq]
  refine (List.perm_ext_iff_of_nodup ?_ hshown).2 fun i => ?_
  · refine List.nodup_append.2 ⟨h.filter _, hshown.filter _, fun i hi j hj hij => ?_⟩
    have hin := (List.mem_filter.1 hi).1
    have hout := of_decide_eq_true (List.mem_filter.1 hj).2
    exact hout (hij ▸ hin)
  · rw [List.mem_append, List.mem_filter, List.mem_filter, decide_eq_true_iff,
      decide_eq_true_iff]
    by_cases hi : i ∈ c.order
    · exact ⟨fun hc => hc.elim And.right And.left, fun hc => Or.inl ⟨hi, hc⟩⟩
    · exact ⟨fun hc => hc.elim And.right And.left, fun hc => Or.inr ⟨hc, hi⟩⟩

/-- Every rank is a place of the union. -/
theorem lt_of_mem_shownPlaces (h : c.order.Nodup) {i : ℕ} (hi : i ∈ shownPlaces c) :
    i < c.raw.union.length :=
  RawSpec.lt_of_mem_shownIndices ((shownPlaces_perm h).mem_iff.1 hi)

theorem transformation?_eq_some_iff {i : ℕ} {t : Transformation} :
    transformation? c i = some t ↔ ∃ d s, c.raw.union[i]? = some d ∧ c.settings[i]? = some s ∧
      t = ⟨d, s.path, s.keep, s.output.name⟩ := by
  rw [transformation?]
  rcases c.raw.union[i]? with _ | d <;> rcases c.settings[i]? with _ | s
  · simp
  · simp
  · simp
  · simp [eq_comm]

/-- What is loaded for a place is about the column there. -/
theorem map_column_transformation? (h : c.Aligned) (i : ℕ) :
    (transformation? c i).map Transformation.column = c.raw.union[i]? := by
  rw [transformation?]
  rcases hd : c.raw.union[i]? with _ | d
  · rfl
  · have hlt : i < c.settings.length := by
      rw [h.length_settings]
      exact (List.getElem?_eq_some_iff.1 hd).1
    rw [List.getElem?_eq_getElem hlt]
    rfl

/-- The columns of a loaded model are those at the ranks. -/
theorem map_column_ofConfig (h : c.Aligned) :
    (ofConfig c).columns.map Transformation.column =
      (shownPlaces c).filterMap (c.raw.union[·]?) := by
  rw [ofConfig, List.map_filterMap]
  exact List.filterMap_congr fun i _ => map_column_transformation? h i

/-- **A loaded model is aligned.** -/
theorem aligned_ofConfig (h : c.Aligned) : (ofConfig c).Aligned := by
  refine ⟨?_, Nat.min_le_right _ _⟩
  rw [map_column_ofConfig h]
  exact ((shownPlaces_perm h.order_nodup).filterMap _).trans
    (List.Perm.of_eq RawSpec.filterMap_shownIndices)

/-- **Every path of a loaded model starts at the type of its column.** -/
theorem sourced_ofConfig (h : c.Aligned) : (ofConfig c).Sourced := by
  intro t ht
  obtain ⟨i, -, hi⟩ := List.mem_filterMap.1 ht
  obtain ⟨d, s, hd, hs, rfl⟩ := transformation?_eq_some_iff.1 hi
  exact h.source_eq hd hs

/-- **Every path of a loaded model is offered** where every path of the configuration is. -/
theorem offered_ofConfig (h : c.Aligned) (hc : c.Offered) : (ofConfig c).Offered := by
  intro t ht
  obtain ⟨i, -, hi⟩ := List.mem_filterMap.1 ht
  obtain ⟨d, s, -, hs, rfl⟩ := transformation?_eq_some_iff.1 hi
  have hsource : s.path.source = d.type := sourced_ofConfig h _ ht
  have hmem : s.path ∈ c.paths := List.mem_map_of_mem (List.mem_of_getElem? hs)
  rw [Transformation.Offered, ← hsource]
  exact hc s.path hmem

/-! ### Rendering -/

section Rendering

variable {m : Model} {rootId : String} {items : Items}

/-- The setting of a union column has an offered path, that of the model or the standard
one. -/
theorem offered_setting (hm : m.Offered) (d : Column) :
    (m.setting d).path ∈ ConversionPath.available (m.setting d).path.source := by
  rw [setting]
  rcases ht : m.get? d.name with _ | t
  · exact ConversionPath.standard_mem_available d.type
  · have hp := hm t (mem_of_get?_eq_some ht).1
    exact (ConversionPath.source_of_mem_available hp).symm ▸ hp

/-- The lists of a model's draft are those of its settings. -/
theorem settings_of_toConfig (h : m.toConfig rootId items = .ok c) :
    c.settings = m.raw.union.map m.setting := by
  obtain ⟨raw, -, -, rfl⟩ := Draft.build_eq_ok_iff.1 h
  exact Draft.settings_map _

/-- **A rendered configuration offers every path** where the model does. -/
theorem offered_of_toConfig (hm : m.Offered) (h : m.toConfig rootId items = .ok c) :
    c.Offered := by
  intro p hp
  rw [Config.paths, settings_of_toConfig h, List.map_map] at hp
  obtain ⟨d, -, rfl⟩ := List.mem_map.1 hp
  exact offered_setting hm d

/-- A rendered configuration has the raw spec of its items and the mode of the model. -/
theorem raw_of_toConfig (h : m.toConfig rootId items = .ok c) :
    RawSpec.ofItems? items = some c.raw ∧ c.mode = m.mode := by
  obtain ⟨raw, hraw, -, rfl⟩ := Draft.build_eq_ok_iff.1 h
  exact ⟨hraw, rfl⟩

/-- A rendered configuration is aligned, and it offers every path where the model does. -/
theorem aligned_of_toConfig (hm : m.Offered) (h : m.toConfig rootId items = .ok c) :
    c.Aligned ∧ c.Offered :=
  ⟨Draft.aligned_of_build h, offered_of_toConfig hm h⟩

end Rendering

/-! ### Fresh models -/

theorem aligned_fresh {raw : RawSpec} {mode : FilterMode} {m : Model}
    (h : fresh raw mode = .ok m) : m.Aligned ∧ m.Offered := by
  obtain rfl := Except.ok.inj (guard_eq_ok_iff.1 h).2
  refine ⟨⟨?_, Nat.le_refl _⟩, fun t ht => ?_⟩
  · rw [List.map_map]
    exact List.Perm.of_eq (List.map_id _)
  · obtain ⟨d, -, rfl⟩ := List.mem_map.1 ht
    exact offered_standard d true

/-- A model that comes up in a run from a fresh one is aligned, and all its paths are
offered. -/
theorem ReachableFrom.aligned_of_fresh {m : Model} (h : m.ReachableFrom IsFresh) :
    m.Aligned ∧ m.Offered :=
  keptByCalls_offered.reachable (fun _ ⟨_, _, hfresh⟩ => aligned_fresh hfresh) h

end Model

namespace Config

variable {c c' : Config} {rootId : String} {items : Items} {mode : FilterMode}

/-! ### Fresh configurations, and those that are carried over -/

theorem rawSpec_eq_ok_iff {raw : RawSpec} :
    rawSpec items = .ok raw ↔ RawSpec.ofItems? items = some raw := by
  rw [rawSpec]
  rcases RawSpec.ofItems? items with _ | found
  · exact ⟨fun h => absurd h error_ne_ok, fun h => absurd h (by simp)⟩
  · exact ⟨fun h => congrArg some (Except.ok.inj h),
      fun h => congrArg Except.ok (Option.some.inj h)⟩

/-- **A fresh configuration** is rendered from a fresh model of the raw spec of its items. -/
theorem fresh_eq_ok_iff : fresh rootId items mode = .ok c ↔
    ∃ raw m, RawSpec.ofItems? items = some raw ∧ Model.fresh raw mode = .ok m ∧
      m.toConfig rootId items = .ok c := by
  simp only [fresh, bind_eq_ok_iff, rawSpec_eq_ok_iff, exists_and_left]

/-- A fresh configuration shows a column. -/
theorem lacksShared_of_fresh (h : fresh rootId items mode = .ok c) :
    Model.lacksShared c.mode c.raw = false := by
  obtain ⟨raw, m, hraw, hm, h⟩ := fresh_eq_ok_iff.1 h
  obtain ⟨hraw', hmode⟩ := Model.raw_of_toConfig h
  obtain ⟨hshared, hcolumns⟩ := guard_eq_ok_iff.1 hm
  rw [hmode, ← Except.ok.inj hcolumns, ← Option.some.inj (hraw.symm.trans hraw')]
  exact Bool.eq_false_iff.2 hshared

/-- **What carrying a configuration over comes to:** there is a raw spec of the items, the mode
shows some of it, and the model that the configuration is loaded into is reconciled and
rendered. -/
theorem reconcile_eq_ok_iff : c.reconcile items = .ok c' ↔
    ∃ raw, RawSpec.ofItems? items = some raw ∧ Model.lacksShared c.mode raw = false ∧
      ((Model.ofConfig c).reconcile raw).toConfig c.rootId items = .ok c' := by
  simp only [reconcile, bind_eq_ok_iff, rawSpec_eq_ok_iff, throw_guard_eq_ok_iff,
    Bool.not_eq_true]

/-- What is carried over is aligned, and it offers every path where the configuration does. -/
theorem aligned_of_reconcile (hc : c.Aligned) (hoff : c.Offered) (h : c.reconcile items = .ok c') :
    c'.Aligned ∧ c'.Offered := by
  obtain ⟨raw, -, -, h⟩ := reconcile_eq_ok_iff.1 h
  have hm := Model.offered_reslot (Model.aligned_ofConfig hc).distinct
    (Model.offered_ofConfig hc hoff) raw
  exact Model.aligned_of_toConfig (hm _) h

/-- What is carried over shows a column. -/
theorem lacksShared_of_reconcile (h : c.reconcile items = .ok c') :
    Model.lacksShared c'.mode c'.raw = false := by
  obtain ⟨raw, hraw, hshared, h⟩ := reconcile_eq_ok_iff.1 h
  obtain ⟨hraw', hmode⟩ := Model.raw_of_toConfig h
  rw [hmode, ← Option.some.inj (hraw.symm.trans hraw')]
  exact hshared

end Config

end OneTable
