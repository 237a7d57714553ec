import OneTable.Proofs.Config.Load

/-!
# What a reconciliation does to a model

A user who has arranged the columns of a group expects three things when the items change: what
was arranged stays arranged, what was decided about a column stays decided, and what is new
turns up in one place. `OneTable.Model.CarriesOver` says this of an old and a new model, by name
and without any positions: the names of the new model are

* the old names in front of the anchor that are still shown, in old order,
* the names shown that the old model does not have, in raw order,
* the other old names that are still shown, in old order,

and the new anchor stands in front of the second block. A column of the first or the third block
has its settings, along a path that fits its type now (`OneTable.Transformation.KeepsPath`); a
column of the second has the settings of a column nobody has edited.

A reconciliation relates the old model to the new one in this way, and so does a switch of the
filter mode, which is the same thing over the same raw spec.

* `OneTable.Model.carriesOver_reslot` – carrying a model over means what it should;
* `OneTable.Model.carriesOver_of_reachable` – **what reconciliation and a switch of the mode
  mean,** for every model that comes up.
-/

namespace OneTable

/-! ### Paths -/

/-- **The path of a column whose type may have changed:** the old path if the type has not
changed, and otherwise the path that the new type offers to the old destination, or the
standard path where it offers none. -/
structure Transformation.KeepsPath (old : Transformation) (new : Column) (p : ConversionPath) :
    Prop where
  same : old.column.type = new.type → p = old.path
  toward : old.column.type ≠ new.type → ∀ q ∈ ConversionPath.available new.type,
    q.destination = old.path.destination → p = q
  away : old.column.type ≠ new.type → (∀ q ∈ ConversionPath.available new.type,
    q.destination ≠ old.path.destination) → p = ConversionPath.standard new.type

namespace ConversionPath

/-- A type offers one path to a destination at most. -/
theorem nodup_map_destination_available (type : ColumnType) :
    ((available type).map destination).Nodup := by
  cases type <;> decide

/-- **The path toward a destination** is the offered path that leads there. -/
theorem toward?_eq_some_iff {type destination : ColumnType} {p : ConversionPath} :
    toward? type destination = some p ↔ p ∈ available type ∧ p.destination = destination :=
  find?_key_eq_some_iff (nodup_map_destination_available type)

end ConversionPath

/-- Settings that are carried over have the path they should have. -/
theorem Transformation.keepsPath_carryOver (t : Transformation) (c : Column) :
    t.KeepsPath c (t.carryOver c).path where
  same htype := by rw [carryOver, if_pos htype]
  toward htype q hq hd := by
    rw [carryOver, if_neg htype, ConversionPath.toward?_eq_some_iff.2 ⟨hq, hd⟩, Option.getD_some]
  away htype hnone := by
    rw [carryOver, if_neg htype]
    rcases hp : ConversionPath.toward? c.type t.path.destination with _ | p
    · rw [Option.getD_none]
    · obtain ⟨hmem, hd⟩ := ConversionPath.toward?_eq_some_iff.1 hp
      exact absurd hd (hnone p hmem)

namespace Model

/-! ### The relation -/

/-- **A new model carries an old one over to a raw spec and a mode.** -/
structure CarriesOver (old : Model) (raw : RawSpec) (mode : FilterMode) (new : Model) : Prop where
  raw_eq : new.raw = raw
  mode_eq : new.mode = mode
  keepUnknown_eq : new.keepUnknown = old.keepUnknown
  names_eq : new.names =
    (old.names.take old.anchor).filter (· ∈ raw.shownNames mode) ++
      (raw.shownNames mode).filter (· ∉ old.names) ++
      (old.names.drop old.anchor).filter (· ∈ raw.shownNames mode)
  anchor_eq : new.anchor =
    ((old.names.take old.anchor).filter (· ∈ raw.shownNames mode)).length
  /-- A column that is still shown is the new raw column, with its old settings. -/
  carried : ∀ t ∈ old.columns, ∀ c ∈ raw.relevant mode, c.name = t.name →
    ∃ u, new.get? c.name = some u ∧ u.column = c ∧ u.keep = t.keep ∧
      u.outputName = t.outputName ∧ t.KeepsPath c u.path
  /-- A column that is new has the settings of a column nobody has edited. -/
  discovered : ∀ c ∈ raw.relevant mode, c.name ∉ old.names →
    new.get? c.name = some ⟨c, ConversionPath.standard c.type, old.keepUnknown, c.name⟩

section Reslotting

variable {m : Model}

/-- The columns of a model carried over: those that are still there, and those that are new. -/
theorem mem_columns_reslot (hm : m.names.Nodup) {raw : RawSpec} {mode : FilterMode}
    {u : Transformation} : u ∈ (m.reslot raw mode).columns ↔
      u ∈ carryBlock (raw.relevant mode) m.columns ∨ u ∈ m.discovered (raw.relevant mode) := by
  -- the new columns stand between the two blocks of old ones
  rw [reslot_eq hm, ← carriedBefore_append_carriedBehind, List.mem_append, List.mem_append,
    List.mem_append, or_right_comm]

/-- **Carrying a model over means what it should.** -/
theorem carriesOver_reslot (hm : m.names.Nodup) (raw : RawSpec) (mode : FilterMode) :
    m.CarriesOver raw mode (m.reslot raw mode) := by
  have hnew := (aligned_reslot hm raw mode).distinct
  have hbefore : (m.carriedBefore (raw.relevant mode)).map Transformation.name =
      (m.names.take m.anchor).filter (· ∈ raw.shownNames mode) := by
    rw [carriedBefore, map_name_carryBlock, List.map_take]
    rfl
  have hbehind : (m.carriedBehind (raw.relevant mode)).map Transformation.name =
      (m.names.drop m.anchor).filter (· ∈ raw.shownNames mode) := by
    rw [carriedBehind, map_name_carryBlock, List.map_drop]
    rfl
  refine ⟨rfl, rfl, rfl, ?_, ?_, fun t ht c hc hn => ?_, fun c hc hn => ?_⟩
  · rw [reslot_eq hm, names, List.map_append, List.map_append, hbefore, map_name_discovered,
      hbehind]
    rfl
  · rw [reslot_eq hm, ← hbefore, List.length_map]
  · -- the lookup of a name that is still shown hits the raw column of this name
    have hfind := (find?_key_eq_some_iff (raw.distinct_relevant mode)).2 ⟨hc, hn⟩
    have hmem : t.carryOver c ∈ carryBlock (raw.relevant mode) m.columns :=
      List.mem_filterMap.2 ⟨t, ht, Option.map_eq_some_iff.2 ⟨c, hfind, rfl⟩⟩
    exact ⟨t.carryOver c, (get?_eq_some_iff hnew).2 ⟨(mem_columns_reslot hm).2 (.inl hmem), rfl⟩,
      rfl, rfl, rfl, t.keepsPath_carryOver c⟩
  · have hmem : Transformation.standard c m.keepUnknown ∈ m.discovered (raw.relevant mode) := by
      refine List.mem_map_of_mem (List.mem_filter.2 ⟨hc, ?_⟩)
      rw [get?_eq_none_iff.2 hn]
      rfl
    exact (get?_eq_some_iff hnew).2 ⟨(mem_columns_reslot hm).2 (.inr hmem), rfl⟩

end Reslotting

/-! ### The models that come up -/

/-- Every model that comes up is aligned with its raw spec. -/
theorem Reachable.aligned {m : Model} (h : m.Reachable) : m.Aligned := by
  refine keptByCalls_aligned.reachable (fun m₀ h₀ => ?_) h
  rcases h₀ with ⟨raw, mode, hfresh⟩ | ⟨d, c, hbuild, rfl⟩
  · exact (aligned_fresh hfresh).1
  · exact aligned_ofConfig (Draft.aligned_of_build hbuild)

/-- **What a reconciliation means,** and what a switch of the filter mode means where the new
mode shows anything: the new model carries the old one over. -/
theorem carriesOver_of_reachable {old : Model} (h : old.Reachable) (raw : RawSpec) :
    old.CarriesOver raw old.mode (old.reconcile raw) ∧
      ∀ mode, mode ≠ old.mode → lacksShared mode old.raw = false →
        ∃ new, old.setMode mode = .ok new ∧ old.CarriesOver old.raw mode new := by
  have hd := h.aligned.distinct
  refine ⟨carriesOver_reslot hd raw old.mode, fun mode hmode hshared => ?_⟩
  refine ⟨old.reslot old.raw mode, ?_, carriesOver_reslot hd old.raw mode⟩
  rw [setMode, if_neg hmode, hshared]
  rfl

theorem carriesOver_of_reachable_orders :
    (ordersModel.run ordersEdits).Reachable ∧
      (ordersModel.run ordersEdits).CarriesOver ordersRaw .intersection
        ((ordersModel.run ordersEdits).reconcile ordersRaw) ∧
      ∃ new, (ordersModel.run ordersEdits).setMode .union = .ok new ∧
        (ordersModel.run ordersEdits).CarriesOver ordersRetyped .union new := by
  have h : (ordersModel.run ordersEdits).Reachable :=
    ⟨ordersModel, ordersEdits, Or.inl ⟨ordersRaw, .union, fresh_ordersRaw⟩, rfl⟩
  obtain ⟨hrec, hmode⟩ := carriesOver_of_reachable h ordersRaw
  exact ⟨h, hrec, hmode .union (by decide) rfl⟩

end Model

end OneTable
