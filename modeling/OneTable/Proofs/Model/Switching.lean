import OneTable.Proofs.Config.Idempotence
import OneTable.Proofs.Model.Reconciliation

/-!
# Switching the filter mode back

A user who looks at the columns that all items share may want to see the others for a moment, and
go back. Either switch rebuilds the model: it lists the columns anew, and it computes the anchor
anew as well, as the number of columns in front of it that are still there. What one switch puts in
has to be what the other takes out, wherever the anchor is.

In the form of the three blocks this is seen at once. From the shared columns to all of them, the
blocks on both sides of the anchor stay as they are, and the other columns
(`OneTable.Model.unshared`) are put between them; the anchor stays in front of those. On the way
back each block keeps its shared columns (`OneTable.Model.sharedOf`), which are none of the middle
block and all of the outer ones.

The other way round is not the identity. From all columns to the shared ones the others are gone
with their settings, so that what comes back in their place are columns that nobody has edited.

* `OneTable.Model.widened`, `OneTable.Model.narrowed` – the two switches, block by block, with
  `OneTable.Model.Aligned.setMode_union` and `OneTable.Model.Aligned.setMode_intersection`;
* `OneTable.Model.Aligned.narrowed_widened` – what the first puts in, the second takes out;
* `OneTable.Model.switches_back` – **what a switch and another one back make of a model**, for
  every model that comes up.
-/

namespace OneTable

/-! ### Shared columns -/

section Shared

variable {raw : RawSpec}

theorem RawSpec.inIntersection_eq_true_iff {n : String} :
    raw.inIntersection n = true ↔ n ∈ raw.shownNames .intersection := by
  rw [inIntersection, List.any_eq_true, shownNames, List.mem_map]
  refine exists_congr fun c => and_congr_right fun _ => ?_
  exact decide_eq_true_iff

/-- A union column is shared if its name is. -/
theorem RawSpec.mem_intersection_iff {c : Column} (hc : c ∈ raw.union) :
    c ∈ raw.intersection ↔ raw.inIntersection c.name = true := by
  rw [inIntersection_eq_true_iff]
  constructor
  · exact fun h => List.mem_map_of_mem h
  · intro h
    obtain ⟨d, hd, hname⟩ := List.mem_map.1 h
    exact eq_of_key_eq raw.distinct (raw.shared.subset hd) hc hname ▸ hd

end Shared

namespace Model

/-- The columns of a block that all items share. -/
def sharedOf (raw : RawSpec) (block : List Transformation) : List Transformation :=
  block.filter fun t => raw.inIntersection t.name

/-- The columns that not all items share, in raw order, with the settings of columns that turn
up. -/
def unshared (m : Model) : List Transformation :=
  (m.raw.union.filter fun c => !m.raw.inIntersection c.name).map fun c =>
    Transformation.standard c m.keepUnknown

section Blocks

variable {m : Model} {raw : RawSpec} {block : List Transformation}

/-- **What the shared columns have of a block** is its shared columns, as they are. -/
theorem carryBlock_intersection (h : ∀ t ∈ block, t.column ∈ raw.union) :
    carryBlock raw.intersection block = sharedOf raw block := by
  rw [carryBlock, sharedOf, ← List.filterMap_eq_filter]
  refine List.filterMap_congr fun t ht => ?_
  by_cases hshared : raw.inIntersection t.name = true
  · have hfind : raw.intersection.find? (fun c => c.name = t.name) = some t.column :=
      (find?_key_eq_some_iff (raw.distinct_relevant .intersection)).2
        ⟨(raw.mem_intersection_iff (h t ht)).2 hshared, rfl⟩
    rw [hfind, Option.map_some, t.carryOver_self, Option.guard, if_pos hshared]
  · have hnone : raw.intersection.find? (fun c => c.name = t.name) = none :=
      find?_key_eq_none_iff.2 fun hmem => hshared (RawSpec.inIntersection_eq_true_iff.2 hmem)
    rw [hnone, Option.guard, if_neg hshared]
    rfl

/-- None of the other columns is shared. -/
theorem sharedOf_unshared (m : Model) : sharedOf m.raw m.unshared = [] := by
  rw [sharedOf, List.filter_eq_nil_iff]
  intro t ht hshared
  obtain ⟨c, hc, rfl⟩ := List.mem_map.1 ht
  have hother := (List.mem_filter.1 hc).2
  rw [Transformation.name_standard] at hshared
  rw [hshared] at hother
  exact absurd hother Bool.false_ne_true

theorem sharedOf_append (b₁ b₂ : List Transformation) :
    sharedOf raw (b₁ ++ b₂) = sharedOf raw b₁ ++ sharedOf raw b₂ :=
  List.filter_append b₁ b₂

end Blocks

/-! ### The two switches -/

/-- A model with all columns in place of the shared ones: the others are put at the anchor. -/
def widened (m : Model) : Model where
  raw := m.raw
  columns := m.columns.take m.anchor ++ (m.unshared ++ m.columns.drop m.anchor)
  mode := .union
  keepUnknown := m.keepUnknown
  anchor := m.anchor

/-- A model with the shared columns in place of all: each block keeps its own. -/
def narrowed (m : Model) : Model where
  raw := m.raw
  columns := sharedOf m.raw (m.columns.take m.anchor) ++ sharedOf m.raw (m.columns.drop m.anchor)
  mode := .intersection
  keepUnknown := m.keepUnknown
  anchor := (sharedOf m.raw (m.columns.take m.anchor)).length

namespace Aligned

variable {m : Model} (h : m.Aligned)
include h

/-- **From the shared columns to all:** the others are put at the anchor. -/
theorem setMode_union (hmode : m.mode = .intersection) : m.setMode .union = .ok m.widened := by
  have hself : ∀ block, block ⊆ m.columns → carryBlock m.raw.union block = block :=
    fun block hblock => carryBlock_eq_self m.raw.distinct fun t ht =>
      h.column_mem_union (hblock ht)
  have hbefore : m.carriedBefore m.raw.union = m.columns.take m.anchor :=
    hself _ (List.take_subset _ _)
  have hbehind : m.carriedBehind m.raw.union = m.columns.drop m.anchor :=
    hself _ (List.drop_subset _ _)
  -- the columns that the model does not have are those that are not shared
  have hnew : m.discovered m.raw.union = m.unshared := by
    rw [discovered, unshared]
    refine congrArg _ (List.filter_congr fun c _ => ?_)
    rw [Bool.eq_iff_iff, Option.isNone_iff_eq_none, get?_eq_none_iff, h.names_perm.mem_iff, hmode,
      ← RawSpec.inIntersection_eq_true_iff, Bool.not_eq_true', Bool.not_eq_true]
  rw [setMode_eq_reslot (by rw [hmode]; decide) rfl, reslot_eq h.distinct]
  simp only [RawSpec.relevant, hbefore, hbehind, hnew, h.length_take_anchor, List.append_assoc,
    widened]

/-- **From all columns to the shared ones:** each block keeps its shared columns. -/
theorem setMode_intersection (hmode : m.mode = .union)
    (hshared : lacksShared .intersection m.raw = false) :
    m.setMode .intersection = .ok m.narrowed := by
  have hblock : ∀ block, block ⊆ m.columns →
      carryBlock m.raw.intersection block = sharedOf m.raw block :=
    fun block hblock => carryBlock_intersection fun t ht => h.column_mem_union (hblock ht)
  have hbefore : m.carriedBefore m.raw.intersection = sharedOf m.raw (m.columns.take m.anchor) :=
    hblock _ (List.take_subset _ _)
  have hbehind : m.carriedBehind m.raw.intersection = sharedOf m.raw (m.columns.drop m.anchor) :=
    hblock _ (List.drop_subset _ _)
  have hnew : m.discovered m.raw.intersection = [] := by
    rw [discovered, List.map_eq_nil_iff, List.filter_eq_nil_iff]
    intro c hc hnone
    have hmem : c.name ∈ m.names := by
      rw [h.names_perm.mem_iff, hmode]
      exact List.mem_map_of_mem (m.raw.shared.subset hc)
    exact get?_eq_none_iff.1 (Option.isNone_iff_eq_none.1 hnone) hmem
  rw [setMode_eq_reslot (by rw [hmode]; decide) hshared, reslot_eq h.distinct]
  simp only [RawSpec.relevant, hbefore, hbehind, hnew, List.append_nil, narrowed]

/-- In a model of the shared columns, every block has shared columns only. -/
theorem sharedOf_eq_self (hmode : m.mode = .intersection) {block : List Transformation}
    (hblock : block ⊆ m.columns) : sharedOf m.raw block = block := by
  refine List.filter_eq_self.2 fun t ht => ?_
  have hname : t.name ∈ m.names := List.mem_map_of_mem (hblock ht)
  rw [h.names_perm.mem_iff, hmode] at hname
  exact RawSpec.inIntersection_eq_true_iff.2 hname

/-- **What the first switch puts in, the second takes out,** and the anchor stays where it is. -/
theorem narrowed_widened (hmode : m.mode = .intersection) : m.widened.narrowed = m := by
  have hbefore : sharedOf m.raw (m.widened.columns.take m.anchor) = m.columns.take m.anchor := by
    rw [widened, List.take_left' h.length_take_anchor,
      h.sharedOf_eq_self hmode (List.take_subset _ _)]
  -- the middle block has no shared columns
  have hbehind : sharedOf m.raw (m.widened.columns.drop m.anchor) = m.columns.drop m.anchor := by
    rw [widened, List.drop_left' h.length_take_anchor, sharedOf_append, sharedOf_unshared,
      List.nil_append, h.sharedOf_eq_self hmode (List.drop_subset _ _)]
  calc m.widened.narrowed
      = ⟨m.raw, sharedOf m.raw (m.widened.columns.take m.anchor) ++
          sharedOf m.raw (m.widened.columns.drop m.anchor), .intersection, m.keepUnknown,
          (sharedOf m.raw (m.widened.columns.take m.anchor)).length⟩ := rfl
    _ = ⟨m.raw, m.columns, m.mode, m.keepUnknown, m.anchor⟩ := by
        rw [hbefore, hbehind, List.take_append_drop, h.length_take_anchor, hmode]
    _ = m := rfl

/-- A model stays aligned when it is widened or narrowed, since it is a switch that does so. -/
theorem of_setMode {m' : Model} {mode : FilterMode} (hset : m.setMode mode = .ok m') :
    m'.Aligned :=
  keptByCalls_aligned m (.setMode mode) m' h hset

end Aligned

/-! ### There and back -/

section Back

variable (m : Model)

/-- A model that was narrowed and widened again is what each block has of shared columns, with the
others between the two. -/
theorem columns_widened_narrowed :
    m.narrowed.widened.columns = sharedOf m.raw (m.columns.take m.anchor) ++
      (m.unshared ++ sharedOf m.raw (m.columns.drop m.anchor)) := by
  have hunshared : m.narrowed.unshared = m.unshared := rfl
  rw [widened, hunshared]
  simp only [narrowed, List.take_left, List.drop_left]

/-- Its shared columns are those of the model. -/
theorem sharedOf_widened_narrowed :
    sharedOf m.raw m.narrowed.widened.columns = sharedOf m.raw m.columns := by
  have htwice : ∀ block, sharedOf m.raw (sharedOf m.raw block) = sharedOf m.raw block := by
    intro block
    rw [sharedOf, sharedOf, List.filter_filter]
    exact List.filter_congr fun t _ => Bool.and_self _
  rw [columns_widened_narrowed, sharedOf_append, sharedOf_append, sharedOf_unshared,
    List.nil_append, htwice, htwice, ← sharedOf_append, List.take_append_drop]

end Back

/-- **What a switch and another one back make of a model,** for every model that comes up and
whose items share a column. From the shared columns to all of them and back, it is the same model.
From all columns to the shared ones and back, the shared columns keep their settings and their
order, and every other column is in one block at the anchor, in raw order, as a column that has
just turned up. -/
theorem switches_back {m : Model} (h : m.Reachable) (hshared : m.raw.intersection ≠ []) :
    (m.mode = .intersection →
      ∃ wide, m.setMode .union = .ok wide ∧ wide.setMode .intersection = .ok m) ∧
    (m.mode = .union →
      ∃ narrow back, m.setMode .intersection = .ok narrow ∧ narrow.setMode .union = .ok back ∧
        back.raw = m.raw ∧ back.mode = .union ∧ back.keepUnknown = m.keepUnknown ∧
        back.columns = sharedOf m.raw (m.columns.take m.anchor) ++
          (m.unshared ++ sharedOf m.raw (m.columns.drop m.anchor)) ∧
        back.anchor = (sharedOf m.raw (m.columns.take m.anchor)).length ∧
        sharedOf m.raw back.columns = sharedOf m.raw m.columns) := by
  have halign := h.aligned
  have hlacks : lacksShared .intersection m.raw = false := by
    simpa [lacksShared] using hshared
  refine ⟨fun hmode => ?_, fun hmode => ?_⟩
  · have hwide := halign.setMode_union hmode
    refine ⟨m.widened, hwide, ?_⟩
    rw [(halign.of_setMode hwide).setMode_intersection rfl hlacks, halign.narrowed_widened hmode]
  · have hnarrow := halign.setMode_intersection hmode hlacks
    exact ⟨m.narrowed, m.narrowed.widened, hnarrow, (halign.of_setMode hnarrow).setMode_union rfl,
      rfl, rfl, rfl, m.columns_widened_narrowed, rfl, m.sharedOf_widened_narrowed⟩

/-- The model of the run before it is switched to the shared columns, where the day is in front of
the anchor and the order number behind it. -/
def ordersArranged : Model :=
  ordersModel.run (ordersEdits.take 3)

/-- The order number stays alone and is joined by the day again; and the day, which was in front of
the anchor, comes back behind it. -/
theorem switches_back_orders :
    ordersShared.Reachable ∧ ordersShared.raw.intersection ≠ [] ∧
    (∃ wide, ordersShared.setMode .union = .ok wide ∧
      wide.setMode .intersection = .ok ordersShared) ∧
    ordersArranged.Reachable ∧ ordersArranged.raw.intersection ≠ [] ∧
    ∃ narrow back, ordersArranged.setMode .intersection = .ok narrow ∧
      narrow.setMode .union = .ok back ∧ back.names = ["day", "order"] ∧ back.anchor = 0 := by
  have hshared : ordersShared.Reachable :=
    ⟨ordersModel, ordersEdits.take 4, .inl ⟨ordersRaw, .union, fresh_ordersRaw⟩, rfl⟩
  have harranged : ordersArranged.Reachable :=
    ⟨ordersModel, ordersEdits.take 3, .inl ⟨ordersRaw, .union, fresh_ordersRaw⟩, rfl⟩
  have hne : ordersRaw.intersection ≠ [] := List.cons_ne_nil _ _
  obtain ⟨narrow, back, hnarrow, hback, -, -, -, hcolumns, hanchor, -⟩ :=
    (switches_back harranged hne).2 rfl
  refine ⟨hshared, hne, (switches_back hshared hne).1 rfl, harranged, hne, narrow, back, hnarrow,
    hback, ?_, ?_⟩
  · rw [names, hcolumns]
    decide +kernel
  · rw [hanchor]
    decide +kernel

end Model

end OneTable
