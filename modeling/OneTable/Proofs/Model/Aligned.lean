import Mathlib.Data.List.Perm.Lattice
import OneTable.Proofs.Model.Ranking
import OneTable.Proofs.Model.Run
import OneTable.Proofs.Result

/-!
# Models stay aligned with their raw spec

A model has one transformation for each column that its filter mode shows, and none besides.
Which columns these are is said by the raw spec, and the order is the user's business, so the
invariant is that the columns of the model are a *permutation* of the columns shown. With it
goes the anchor, which is a place among them. The calls fall into three kinds:

* those that change the settings of one column leave the list of columns as it is;
* a move permutes it;
* a change of the raw spec or of the mode rebuilds it, from the old columns that are still
  shown and from the shown columns that are new, which together are all that are shown.

A second invariant says that every path is one that its column's type offers. It is kept apart
because a configuration that is drafted by hand may name other paths.

* `OneTable.Model.Aligned` – the invariant, with `OneTable.Model.Aligned.distinct`;
* `OneTable.Model.keptByCalls_aligned` – **every call keeps it**;
* `OneTable.Model.forall_mem_reslot` – what is true of the columns of a model carried over;
* `OneTable.Model.Offered`, `OneTable.Model.keptByCalls_offered` – the same for paths, with
  `OneTable.Model.sourced_reslot` where they need not be offered.
-/

namespace OneTable

/-- An entry between the first ones and the others is an entry that was put in, at the end if there
are not so many. -/
theorem take_append_cons_drop {α : Type} (l : List α) (p : ℕ) (a : α) :
    l.take p ++ a :: l.drop p = l.insertIdx (min p l.length) a := by
  induction l generalizing p with
  | nil => simp
  | cons b l ih =>
    cases p with
    | zero => simp
    | succ p =>
      rw [List.take_succ_cons, List.drop_succ_cons, List.cons_append, ih, List.length_cons,
        Nat.succ_min_succ, List.insertIdx_succ_cons]

/-- The path of a transformation is one that the type of its column offers. -/
def Transformation.Offered (t : Transformation) : Prop :=
  t.path ∈ ConversionPath.available t.column.type

namespace Model

/-- **A model is aligned with its raw spec:** its columns are those that its mode shows, in
some order, and its anchor is a place among them. -/
structure Aligned (m : Model) : Prop where
  columns_perm : (m.columns.map Transformation.column).Perm (m.raw.relevant m.mode)
  anchor_le : m.anchor ≤ m.columns.length

/-- Every path of a model is offered. -/
def Offered (m : Model) : Prop :=
  ∀ t ∈ m.columns, t.Offered

/-- Every path of a model starts at the type of its column. -/
def Sourced (m : Model) : Prop :=
  ∀ t ∈ m.columns, t.path.source = t.column.type

/-- A path that is offered starts where it should. -/
theorem Offered.sourced {m : Model} (h : m.Offered) : m.Sourced :=
  fun t ht => ConversionPath.source_of_mem_available (h t ht)

theorem names_eq_map (m : Model) :
    m.names = (m.columns.map Transformation.column).map Column.name := by
  rw [names, List.map_map]
  rfl

namespace Aligned

variable {m : Model} (h : m.Aligned)
include h

/-- The names of an aligned model are those that its mode shows. -/
theorem names_perm : m.names.Perm (m.raw.shownNames m.mode) := by
  rw [names_eq_map]
  exact h.columns_perm.map Column.name

/-- **No name is listed twice.** -/
theorem distinct : m.names.Nodup :=
  h.names_perm.nodup_iff.2 (m.raw.distinct_relevant m.mode)

/-- The columns of an aligned model are columns of the union. -/
theorem column_mem_union {t : Transformation} (ht : t ∈ m.columns) : t.column ∈ m.raw.union :=
  (m.raw.relevant_sublist m.mode).subset (h.columns_perm.subset (List.mem_map_of_mem ht))

theorem length_take_anchor : (m.columns.take m.anchor).length = m.anchor := by
  rw [List.length_take, Nat.min_eq_left h.anchor_le]

/-- The column of a transformation is the raw column of its name. -/
theorem unionColumn?_eq {t : Transformation} (ht : t ∈ m.columns) :
    m.raw.unionColumn? t.name = some t.column :=
  RawSpec.unionColumn?_of_mem_relevant (h.columns_perm.subset (List.mem_map_of_mem ht))

end Aligned

/-! ### Calls that change the settings of one column -/

section Settings

variable {m m' : Model} {name : String} {f : Transformation → Except Fault Transformation}

/-- Another path is one that the type of the column offers, and nothing else changes. -/
theorem along_eq_ok_iff {t t' : Transformation} {path : ConversionPath} : t.along path = .ok t' ↔
    path ∈ ConversionPath.available t.column.type ∧ t' = { t with path := path } := by
  rw [Transformation.along]
  by_cases hp : path ∈ ConversionPath.available t.column.type
  · rw [if_pos hp]
    exact ⟨fun h => ⟨hp, (Except.ok.inj h).symm⟩, fun h => congrArg Except.ok h.2.symm⟩
  · rw [if_neg hp]
    exact ⟨fun h => absurd h error_ne_ok, fun h => absurd h.1 hp⟩

/-- **What a change of settings does:** it finds the column, and puts the changed settings in
its place. -/
theorem edit_eq_ok_iff : m.edit name f = .ok m' ↔
    ∃ t t', m.get? name = some t ∧ f t = .ok t' ∧ m' = m.modify name fun _ => t' := by
  rw [edit]
  constructor
  · intro h
    rcases ht : m.get? name with _ | t <;> rw [ht] at h
    · exact absurd h (by simp)
    · obtain ⟨t', hf, rfl⟩ := map_eq_ok_iff.1 h
      exact ⟨t, t', rfl, hf, rfl⟩
  · rintro ⟨t, t', ht, hf, rfl⟩
    rw [ht]
    exact map_eq_ok_iff.2 ⟨t', hf, rfl⟩

/-- A change that leaves the column alone leaves the list of columns alone. -/
theorem map_column_modify (hm : m.names.Nodup) {t t' : Transformation}
    (ht : m.get? name = some t) (hcol : t'.column = t.column) :
    (m.modify name fun _ => t').columns.map Transformation.column =
      m.columns.map Transformation.column := by
  obtain ⟨hmem, hname⟩ := (get?_eq_some_iff hm).1 ht
  rw [modify, List.map_map]
  refine List.map_congr_left fun u hu => ?_
  by_cases hn : u.name = name
  · -- names differ, so that no other column is changed
    have hut : u = t := eq_of_key_eq hm hu hmem (hn.trans hname.symm)
    rw [Function.comp_apply, if_pos hn, hcol, hut]
  · rw [Function.comp_apply, if_neg hn]

theorem Aligned.edit (hm : m.Aligned) (hf : ∀ t t', f t = .ok t' → t'.column = t.column)
    (h : m.edit name f = .ok m') : m'.Aligned := by
  obtain ⟨t, t', ht, hft, rfl⟩ := edit_eq_ok_iff.1 h
  have hcols := map_column_modify hm.distinct ht (hf t t' hft)
  refine ⟨?_, ?_⟩
  · rw [hcols]
    exact hm.columns_perm
  · have hlen := congrArg List.length hcols
    rw [List.length_map, List.length_map] at hlen
    exact Nat.le_trans hm.anchor_le (Nat.le_of_eq hlen.symm)

theorem Offered.edit (hm : m.Offered) (hf : ∀ t t', f t = .ok t' → t.Offered → t'.Offered)
    (h : m.edit name f = .ok m') : m'.Offered := by
  obtain ⟨t, t', ht, hft, rfl⟩ := edit_eq_ok_iff.1 h
  intro u hu
  obtain ⟨v, hv, rfl⟩ := List.mem_map.1 hu
  split
  · exact hf t t' hft (hm t (mem_of_get?_eq_some ht).1)
  · exact hm v hv

end Settings

/-! ### Moving a column -/

section Moving

variable {m m' : Model} {name : String} {position : ℕ}

/-- **What a move does:** it finds the column and puts it between the others. -/
theorem moveTo_eq_ok_iff : m.moveTo name position = .ok m' ↔
    ∃ t, m.get? name = some t ∧
      let others := m.columns.filter fun u => u.name ≠ name
      m' = { m with columns := others.take position ++ t :: others.drop position } := by
  rw [moveTo]
  constructor
  · intro h
    rcases ht : m.get? name with _ | t <;> rw [ht] at h
    · exact absurd h (by simp)
    · exact ⟨t, rfl, (Except.ok.inj h).symm⟩
  · rintro ⟨t, ht, rfl⟩
    rw [ht]

/-- **The names after a move** are the other names, with the name put between them. -/
theorem names_of_moveTo (h : m.moveTo name position = .ok m') :
    m'.names = (m.names.filter (· ≠ name)).insertIdx
      (min position (m.names.filter (· ≠ name)).length) name := by
  obtain ⟨t, ht, rfl⟩ := moveTo_eq_ok_iff.1 h
  have hothers : (m.columns.filter fun u => u.name ≠ name).map Transformation.name =
      m.names.filter (· ≠ name) := by
    rw [names, List.filter_map]
    rfl
  rw [names, ← hothers, ← (mem_of_get?_eq_some ht).2, List.length_map, ← List.map_insertIdx,
    ← take_append_cons_drop]

/-- Every other column is a column of another name. -/
theorem filter_name_ne (hm : m.names.Nodup) {t : Transformation} (ht : m.get? name = some t) :
    (m.columns.filter fun u => u.name ≠ name) = m.columns.erase t := by
  obtain ⟨hmem, hname⟩ := (get?_eq_some_iff hm).1 ht
  rw [(List.Nodup.of_map _ hm).erase_eq_filter]
  refine List.filter_congr fun u hu => ?_
  have hiff : u.name = name ↔ u = t :=
    ⟨fun hn => eq_of_key_eq hm hu hmem (hn.trans hname.symm), fun hut => hut ▸ hname⟩
  by_cases hut : u = t
  · simp [hut, hname]
  · simp [hut, mt hiff.1 hut]

/-- **A move permutes the columns.** -/
theorem columns_perm_moveTo (hm : m.names.Nodup) (h : m.moveTo name position = .ok m') :
    m'.columns.Perm m.columns := by
  obtain ⟨t, ht, rfl⟩ := moveTo_eq_ok_iff.1 h
  have hmem := (mem_of_get?_eq_some ht).1
  simp only [filter_name_ne hm ht]
  -- the column is taken out of the list and put into it
  refine List.perm_middle.trans ?_
  rw [List.take_append_drop]
  exact (List.perm_cons_erase hmem).symm

end Moving

/-! ### Another raw spec, another mode -/

section Reslotting

variable {m : Model} {new : List Column}

/-- The columns of a block that are still there, as they are listed now. -/
theorem map_column_carryBlock (block : List Transformation) :
    (carryBlock new block).map Transformation.column =
      block.filterMap fun t => new.find? fun c => c.name = t.name := by
  rw [carryBlock, List.map_filterMap]
  refine List.filterMap_congr fun t _ => ?_
  rw [Option.map_map]
  exact Option.map_id'

/-- **The names of a block carried over** are its names, without those that are gone. -/
theorem map_name_carryBlock (block : List Transformation) :
    (carryBlock new block).map Transformation.name =
      (block.map Transformation.name).filter (· ∈ new.map Column.name) := by
  induction block with
  | nil => rfl
  | cons t block ih =>
    rw [carryBlock_cons, List.map_append, ih, List.map_cons, List.filter_cons]
    by_cases hmem : t.name ∈ new.map Column.name
    · rw [if_pos (decide_eq_true hmem)]
      rcases hf : new.find? fun c => c.name = t.name with _ | c
      · exact absurd hmem (find?_key_eq_none_iff.1 hf)
      · have hn : c.name = t.name := by simpa using List.find?_some hf
        rw [hf, ← hn]
        rfl
    · rw [if_neg (by simpa using hmem), find?_key_eq_none_iff.2 hmem]
      rfl

/-- **The names of the new columns** are the names shown that the model does not have. -/
theorem map_name_discovered :
    (m.discovered new).map Transformation.name = (new.map Column.name).filter (· ∉ m.names) := by
  rw [discovered, List.map_map, List.filter_map]
  refine congrArg _ (List.filter_congr fun c _ => ?_)
  rw [Function.comp_apply, Bool.eq_iff_iff, decide_eq_true_iff, Option.isNone_iff_eq_none]
  exact get?_eq_none_iff

/-- The old columns that are still shown and the new ones are together all that are shown. -/
theorem perm_carryBlock_discovered (hm : m.names.Nodup) (hnew : (new.map Column.name).Nodup) :
    ((carryBlock new m.columns ++ m.discovered new).map Transformation.column).Perm new := by
  have hdisc : (m.discovered new).map Transformation.column =
      new.filter fun c => !decide (c.name ∈ m.names) := by
    rw [discovered, List.map_map]
    refine (List.map_id'' (fun _ => rfl) _).trans (List.filter_congr fun c _ => ?_)
    rw [Bool.eq_iff_iff, Option.isNone_iff_eq_none, get?_eq_none_iff]
    simp
  -- what is carried over is listed in old order, so that only the entries can be compared
  have hcarried : ((carryBlock new m.columns).map Transformation.column).Perm
      (new.filter fun c => decide (c.name ∈ m.names)) := by
    refine (List.perm_ext_iff_of_nodup ?_ ((List.Nodup.of_map _ hnew).filter _)).2 fun c => ?_
    · -- the names of what is carried are among the old ones, which differ
      refine List.Nodup.of_map Column.name ?_
      rw [List.map_map]
      exact (map_name_carryBlock m.columns).symm ▸ hm.filter _
    · rw [map_column_carryBlock, List.mem_filterMap, List.mem_filter, decide_eq_true_iff]
      constructor
      · rintro ⟨t, ht, hc⟩
        obtain ⟨hmem, hn⟩ := (find?_key_eq_some_iff hnew).1 hc
        exact ⟨hmem, hn ▸ List.mem_map_of_mem ht⟩
      · rintro ⟨hmem, hn⟩
        obtain ⟨t, ht, htn⟩ := List.mem_map.1 hn
        exact ⟨t, ht, (find?_key_eq_some_iff hnew).2 ⟨hmem, htn.symm⟩⟩
  rw [List.map_append, hdisc]
  exact (hcarried.append_right _).trans (List.filter_append_perm _ new)

/-- **A model carried over is aligned** with what it was carried over to. -/
theorem aligned_reslot (hm : m.names.Nodup) (raw : RawSpec) (mode : FilterMode) :
    (m.reslot raw mode).Aligned := by
  rw [reslot_eq hm]
  refine ⟨?_, ?_⟩
  · -- the new columns stand between two blocks of old ones, which together are all of them
    have hperm := perm_carryBlock_discovered hm (raw.distinct_relevant mode)
    rw [← carriedBefore_append_carriedBehind, List.append_assoc] at hperm
    refine List.Perm.trans (List.Perm.map _ ?_) hperm
    rw [List.append_assoc]
    exact List.perm_append_comm.append_left _
  · rw [List.length_append, List.length_append, Nat.add_assoc]
    exact Nat.le_add_right _ _

/-- Carrying settings over leads to a path that is offered. -/
theorem offered_carryOver {t : Transformation} (h : t.Offered) (c : Column) :
    (t.carryOver c).Offered := by
  rw [Transformation.Offered, Transformation.carryOver]
  by_cases htype : t.column.type = c.type
  · simp only [if_pos htype]
    exact htype ▸ h
  · simp only [if_neg htype]
    rcases hp : ConversionPath.toward? c.type t.path.destination with _ | p
    · exact ConversionPath.standard_mem_available c.type
    · exact List.mem_of_find?_eq_some hp

theorem offered_standard (c : Column) (keep : Bool) :
    (Transformation.standard c keep).Offered :=
  ConversionPath.standard_mem_available c.type

/-- Carrying settings over leads to a path that starts where it should, offered or not. -/
theorem source_carryOver {t : Transformation} (h : t.path.source = t.column.type) (c : Column) :
    (t.carryOver c).path.source = c.type := by
  rw [Transformation.carryOver]
  by_cases htype : t.column.type = c.type
  · simp only [if_pos htype]
    exact h.trans htype
  · simp only [if_neg htype]
    rcases hp : ConversionPath.toward? c.type t.path.destination with _ | p
    · rfl
    · exact ConversionPath.source_of_mem_available (List.mem_of_find?_eq_some hp)

/-- **What is true of settings that are carried over and of standard ones** is true of every
column of a model carried over. -/
theorem forall_mem_reslot (hm : m.names.Nodup) {p : Transformation → Prop} (raw : RawSpec)
    (mode : FilterMode) (hcarried : ∀ t ∈ m.columns, ∀ c, p (t.carryOver c))
    (hnew : ∀ c, p (Transformation.standard c m.keepUnknown)) :
    ∀ t ∈ (m.reslot raw mode).columns, p t := by
  have hblock : ∀ block, block ⊆ m.columns →
      ∀ t ∈ carryBlock (raw.relevant mode) block, p t := by
    intro block hsub t ht
    obtain ⟨u, hu, hc⟩ := List.mem_filterMap.1 ht
    obtain ⟨c, -, rfl⟩ := Option.map_eq_some_iff.1 hc
    exact hcarried u (hsub hu) c
  rw [reslot_eq hm]
  intro t ht
  rcases List.mem_append.1 ht with ht | ht
  · rcases List.mem_append.1 ht with ht | ht
    · exact hblock _ (List.take_subset _ _) t ht
    · obtain ⟨c, -, rfl⟩ := List.mem_map.1 ht
      exact hnew c
  · exact hblock _ (List.drop_subset _ _) t ht

theorem offered_reslot (hm : m.names.Nodup) (h : m.Offered) (raw : RawSpec)
    (mode : FilterMode) : (m.reslot raw mode).Offered :=
  forall_mem_reslot hm raw mode (fun t ht c => offered_carryOver (h t ht) c)
    fun c => offered_standard c m.keepUnknown

/-- Every path of a model carried over starts at the type of its column, whatever this type was
before. -/
theorem sourced_reslot (hm : m.names.Nodup) (h : m.Sourced) (raw : RawSpec)
    (mode : FilterMode) : (m.reslot raw mode).Sourced :=
  forall_mem_reslot hm raw mode (fun t ht c => source_carryOver (h t ht) c) fun _ => rfl

end Reslotting

/-- **A change of the mode** leaves the model as it is, or carries it over to its own raw
spec. -/
theorem setMode_eq_ok {m m' : Model} {mode : FilterMode} (h : m.setMode mode = .ok m') :
    (mode = m.mode ∧ m' = m) ∨ (mode ≠ m.mode ∧ m' = m.reslot m.raw mode) := by
  rw [setMode] at h
  by_cases hmode : mode = m.mode
  · rw [if_pos hmode] at h
    exact Or.inl ⟨hmode, (Except.ok.inj h).symm⟩
  · rw [if_neg hmode] at h
    exact Or.inr ⟨hmode, (Except.ok.inj (guard_eq_ok_iff.1 h).2).symm⟩

/-- It does so where the other mode shows anything. -/
theorem setMode_eq_reslot {m : Model} {mode : FilterMode} (hmode : mode ≠ m.mode)
    (hshared : lacksShared mode m.raw = false) :
    m.setMode mode = .ok (m.reslot m.raw mode) := by
  rw [setMode, if_neg hmode, hshared]
  rfl

/-! ### Every call -/

/-- **Every call keeps a model aligned.** -/
theorem keptByCalls_aligned : KeptByCalls Aligned := by
  intro m e m' hm h
  cases e with
  | setKeep name keep => exact hm.edit (fun t t' ht => by cases ht; rfl) h
  | rename name outputName => exact hm.edit (fun t t' ht => by cases ht; rfl) h
  | reset name => exact hm.edit (fun t t' ht => by cases ht; rfl) h
  | setPath name path =>
    refine hm.edit (fun t t' ht => ?_) h
    obtain ⟨-, rfl⟩ := along_eq_ok_iff.1 ht
    rfl
  | moveTo name position =>
    have hperm := columns_perm_moveTo hm.distinct h
    obtain ⟨t, -, rfl⟩ := moveTo_eq_ok_iff.1 h
    exact ⟨(hperm.map _).trans hm.columns_perm,
      Nat.le_trans hm.anchor_le (Nat.le_of_eq hperm.length_eq.symm)⟩
  | setKeepUnknown keep =>
    cases h
    exact ⟨hm.columns_perm, hm.anchor_le⟩
  | setAnchor position =>
    cases h
    exact ⟨hm.columns_perm, Nat.min_le_right _ _⟩
  | setMode mode =>
    rcases setMode_eq_ok h with ⟨-, rfl⟩ | ⟨-, rfl⟩
    · exact hm
    · exact aligned_reslot hm.distinct m.raw mode
  | reconcile raw =>
    cases h
    exact aligned_reslot hm.distinct raw m.mode

/-- **Every call keeps every path offered.** -/
theorem keptByCalls_offered : KeptByCalls fun m => m.Aligned ∧ m.Offered := by
  rintro m e m' ⟨hm, hoff⟩ h
  refine ⟨keptByCalls_aligned m e m' hm h, ?_⟩
  cases e with
  | setKeep name keep => exact hoff.edit (fun t t' ht hto => by cases ht; exact hto) h
  | rename name outputName => exact hoff.edit (fun t t' ht hto => by cases ht; exact hto) h
  | reset name =>
    refine hoff.edit (fun t t' ht _ => ?_) h
    cases ht
    exact offered_standard t.column true
  | setPath name path =>
    refine hoff.edit (fun t t' ht _ => ?_) h
    obtain ⟨hp, rfl⟩ := along_eq_ok_iff.1 ht
    exact hp
  | moveTo name position =>
    have hperm := columns_perm_moveTo hm.distinct h
    exact fun t ht => hoff t (hperm.subset ht)
  | setKeepUnknown keep =>
    cases h
    exact hoff
  | setAnchor position =>
    cases h
    exact hoff
  | setMode mode =>
    rcases setMode_eq_ok h with ⟨-, rfl⟩ | ⟨-, rfl⟩
    · exact hoff
    · exact offered_reslot hm.distinct hoff m.raw mode
  | reconcile raw =>
    cases h
    exact offered_reslot hm.distinct hoff raw m.mode

end Model

end OneTable
