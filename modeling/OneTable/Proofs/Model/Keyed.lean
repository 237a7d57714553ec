import OneTable.Model.Keyed
import OneTable.Proofs.Model.Aligned

/-!
# Keyed models stand for models

A keyed model has its columns in no order, and it has a position for each. It *stands for* a
model if its columns are those of the model, in whatever order, and the position of each is its
place in the model. Then the positions are the numbers from zero on, and the model can be read off
the keyed model by sorting.

Every call on a keyed model does what the call does on the model that it stands for. There is
something to show where positions are written. A column is moved by walking the names in their
new order and by giving each column the next number, so the walk is followed by induction. A
model that is carried over is numbered anew, and what is numbered stands for what was listed.

A call on a keyed model hands back a keyed model whatever it answers. So it is a statement about
each call that a refusal leaves the keyed model as it was.

* `OneTable.Placed.placeAll_eq_map` – positions that are given one after the other;
* `OneTable.KeyedModel.StandsFor` – what a keyed model stands for, with
  `OneTable.KeyedModel.StandsFor.toModel_eq` and `OneTable.KeyedModel.standsFor_ofModel`;
* `OneTable.KeyedModel.Answers` – what a call has to answer and to hand back;
* `OneTable.KeyedModel.StandsFor.moveTo`, `OneTable.KeyedModel.StandsFor.reslot` – the two calls
  that give positions;
* `OneTable.KeyedModel.StandsFor.apply`, `OneTable.KeyedModel.StandsFor.trace` – **every call, and
  so every run, does what it does on the model**.
-/

namespace OneTable

/-! ### Columns with their positions -/

namespace Placed

section Numbered

variable {columns : List Transformation}

theorem map_name_numbered :
    (numbered columns).map name = columns.map Transformation.name := by
  conv_rhs => rw [← List.zipIdx_map_fst 0 columns]
  rw [numbered, List.map_map, List.map_map]
  rfl

theorem map_settings_numbered : (numbered columns).map settings = columns := by
  rw [numbered, List.map_map]
  exact List.zipIdx_map_fst 0 columns

/-- **The positions are the numbers from zero on.** -/
theorem map_position_numbered :
    (numbered columns).map position = List.range columns.length := by
  rw [numbered, List.map_map, List.range_eq_range']
  exact List.zipIdx_map_snd 0 columns

/-- Columns whose settings are changed keep their positions. -/
theorem numbered_map (f : Transformation → Transformation) :
    numbered (columns.map f) =
      (numbered columns).map fun e => { e with settings := f e.settings } := by
  rw [numbered, List.zipIdx_map, numbered, List.map_map, List.map_map]
  rfl

theorem mem_numbered {e : Placed} :
    e ∈ numbered columns ↔ columns[e.position]? = some e.settings := by
  rw [numbered, List.mem_map, ← List.mk_mem_zipIdx_iff_getElem?]
  constructor
  · rintro ⟨p, hp, rfl⟩
    exact hp
  · exact fun h => ⟨(e.settings, e.position), h, rfl⟩

/-- Where names differ, the position of a column is the place of its name. -/
theorem numbered_eq_map (hd : (columns.map Transformation.name).Nodup) :
    numbered columns = columns.map fun t =>
      ⟨t, (columns.map Transformation.name).idxOf t.name⟩ := by
  have hplace : ∀ p ∈ columns.zipIdx,
      (columns.map Transformation.name).idxOf p.1.name = p.2 := by
    rintro ⟨t, i⟩ hp
    obtain ⟨hi, rfl⟩ := List.getElem?_eq_some_iff.1 (List.mk_mem_zipIdx_iff_getElem?.1 hp)
    have hlt : i < (columns.map Transformation.name).length := by rwa [List.length_map]
    have hname : (columns.map Transformation.name)[i] = columns[i].name := List.getElem_map _
    rw [← hname]
    exact hd.idxOf_getElem i hlt
  calc numbered columns
      = columns.zipIdx.map fun p => ⟨p.1, (columns.map Transformation.name).idxOf p.1.name⟩ := by
        rw [numbered]
        exact List.map_congr_left fun p hp => by rw [hplace p hp]
    _ = (columns.zipIdx.map Prod.fst).map fun t =>
          ⟨t, (columns.map Transformation.name).idxOf t.name⟩ := by
        rw [List.map_map]
        rfl
    _ = columns.map fun t => ⟨t, (columns.map Transformation.name).idxOf t.name⟩ := by
        rw [List.zipIdx_map_fst]

/-- **Columns that are numbered are found again by sorting.** -/
theorem inOrder_of_perm {es : List Placed} (h : es.Perm (numbered columns)) :
    inOrder es = numbered columns := by
  have hpositions : ((numbered columns).map position).Pairwise (· < ·) := by
    rw [map_position_numbered]
    exact List.pairwise_lt_range
  have hsorted : (inOrder es).Pairwise fun a b => a.position ≤ b.position :=
    (List.pairwise_mergeSort (by simp; omega) (by simp; omega) _).imp (by simp)
  have hperm : (inOrder es).Perm (numbered columns) := (List.mergeSort_perm _ _).trans h
  refine hperm.eq_of_pairwise (fun a b ha hb hab hba => ?_) hsorted
    ((List.pairwise_map.1 hpositions).imp Nat.le_of_lt)
  exact eq_of_key_eq (hpositions.imp Nat.ne_of_lt) (hperm.subset ha) hb (Nat.le_antisymm hab hba)

end Numbered

section Entries

variable {es : List Placed}

/-- A column of a new name is put behind the others. -/
theorem insert_of_notMem {e : Placed} (h : e.name ∉ es.map name) : e.insert es = es ++ [e] := by
  induction es with
  | nil => rfl
  | cons d es ih =>
    rw [List.map_cons, List.mem_cons, not_or] at h
    rw [insert, if_neg (Ne.symm h.1), ih h.2, List.cons_append]

/-- Columns of different names are put one behind the other. -/
theorem foldl_insert {ds : List Placed} (h : ((es ++ ds).map name).Nodup) :
    ds.foldl (fun es e => e.insert es) es = es ++ ds := by
  induction ds generalizing es with
  | nil => exact (List.append_nil es).symm
  | cons d ds ih =>
    have hnew : d.name ∉ es.map name := by
      rw [List.map_append, List.map_cons, List.nodup_middle, List.nodup_cons] at h
      exact fun hmem => h.1 (List.mem_append_left _ hmem)
    rw [List.append_cons] at h
    rw [List.foldl_cons, insert_of_notMem hnew, ih h, ← List.append_cons]

/-- **What comes of positions that are given one after the other:** the column of each name that
is listed has the place of its name. The induction is on the names, so that the numbers start
anywhere. -/
theorem placeAll_eq_map {ns : List String} (hd : ns.Nodup) (first : ℕ) :
    placeAll first ns es = es.map fun e =>
      if e.name ∈ ns then { e with position := first + ns.idxOf e.name } else e := by
  induction ns generalizing first es with
  | nil => simp [placeAll]
  | cons n ns ih =>
    obtain ⟨hn, hd⟩ := List.nodup_cons.1 hd
    rw [placeAll, ih hd, place, List.map_map]
    refine List.map_congr_left fun e _ => ?_
    rw [Function.comp_apply]
    by_cases he : e.name = n
    · -- no later name is this one
      have hlater : ({ e with position := first } : Placed).name ∉ ns := fun h => hn (he ▸ h)
      rw [if_pos he, if_neg hlater, if_pos (by rw [he]; exact List.mem_cons_self), he,
        List.idxOf_cons_self]
      rfl
    · rw [if_neg he, List.idxOf_cons_ne ns (Ne.symm he)]
      by_cases hmem : e.name ∈ ns
      · rw [if_pos hmem, if_pos (List.mem_cons_of_mem n hmem)]
        congr 1
        omega
      · rw [if_neg hmem, if_neg (by simp [he, hmem])]

/-- Positions are given, and nothing else changes. -/
theorem map_settings_placeAll (first : ℕ) (ns : List String) :
    (placeAll first ns es).map settings = es.map settings := by
  induction ns generalizing first es with
  | nil => rfl
  | cons n ns ih =>
    rw [placeAll, ih, place, List.map_map]
    refine List.map_congr_left fun e _ => ?_
    rw [Function.comp_apply]
    split
    · rfl
    · rfl

/-- Where every column is listed, no old position is left. -/
theorem placeAll_eq_map_settings {ns : List String} (hd : ns.Nodup)
    (hall : ∀ e ∈ es, e.name ∈ ns) :
    placeAll 0 ns es = (es.map settings).map fun t => ⟨t, ns.idxOf t.name⟩ := by
  rw [placeAll_eq_map hd, List.map_map]
  refine List.map_congr_left fun e he => ?_
  rw [if_pos (hall e he), Nat.zero_add]
  rfl

end Entries

end Placed

namespace KeyedModel

/-! ### What a keyed model stands for -/

/-- **A keyed model stands for a model:** its columns are those of the model, in whatever order,
and the position of each is its place in the model. -/
structure StandsFor (k : KeyedModel) (m : Model) : Prop where
  raw_eq : k.raw = m.raw
  entries_perm : k.entries.Perm (Placed.numbered m.columns)
  mode_eq : k.mode = m.mode
  keepUnknown_eq : k.keepUnknown = m.keepUnknown
  anchor_eq : k.anchor = m.anchor

/-- Columns of different names are numbered as they are listed. -/
theorem entries_ofColumns {columns : List Transformation}
    (hd : (columns.map Transformation.name).Nodup) (raw : RawSpec) (mode : FilterMode)
    (keepUnknown : Bool) (anchor : ℕ) :
    (ofColumns raw columns mode keepUnknown anchor).entries = Placed.numbered columns := by
  rw [ofColumns, Placed.foldl_insert (by rwa [List.nil_append, Placed.map_name_numbered])]
  rfl

/-- **A model that is numbered** stands for itself. -/
theorem standsFor_ofModel {m : Model} (hm : m.Aligned) : (ofModel m).StandsFor m where
  raw_eq := rfl
  entries_perm := by rw [ofModel, entries_ofColumns hm.distinct]
  mode_eq := rfl
  keepUnknown_eq := rfl
  anchor_eq := Nat.min_eq_left hm.anchor_le

namespace StandsFor

variable {k : KeyedModel} {m : Model} (h : k.StandsFor m)
include h

/-- The settings are those of the model, in whatever order. -/
theorem map_settings_perm : (k.entries.map Placed.settings).Perm m.columns := by
  have hperm := h.entries_perm.map Placed.settings
  rwa [Placed.map_settings_numbered] at hperm

/-- So are the names. -/
theorem names_perm : (k.entries.map Placed.name).Perm m.names := by
  have hperm := h.map_settings_perm.map Transformation.name
  rwa [List.map_map] at hperm

theorem length_eq : k.entries.length = m.columns.length := by
  rw [← h.map_settings_perm.length_eq, List.length_map]

/-- **The positions are the numbers from zero on,** each taken once. -/
theorem positions_perm :
    (k.entries.map Placed.position).Perm (List.range k.entries.length) := by
  rw [h.length_eq, ← Placed.map_position_numbered]
  exact h.entries_perm.map Placed.position

/-- The output order is that of the model. -/
theorem ordered_eq : k.ordered = Placed.numbered m.columns :=
  Placed.inOrder_of_perm h.entries_perm

/-- **A keyed model stands for one model only,** which is read off it by sorting. -/
theorem toModel_eq : k.toModel = m := by
  rw [toModel, h.ordered_eq, Placed.map_settings_numbered, h.raw_eq, h.mode_eq, h.keepUnknown_eq,
    h.anchor_eq]

theorem find?_eq_none_iff {name : String} : k.find? name = none ↔ m.get? name = none := by
  rw [Model.get?_eq_none_iff, ← h.names_perm.mem_iff]
  exact find?_key_eq_none_iff

variable (hm : m.names.Nodup)
include hm

/-- **A column is found with its settings and its position.** -/
theorem find?_eq (name : String) :
    k.find? name = (m.placed? name).map fun r => ⟨r.2, r.1⟩ := by
  have hd : (k.entries.map Placed.name).Nodup := h.names_perm.nodup_iff.2 hm
  refine Option.ext fun e => ?_
  rw [find?, find?_key_eq_some_iff hd, h.entries_perm.mem_iff, Placed.mem_numbered,
    Option.map_eq_some_iff]
  constructor
  · exact fun he => ⟨(e.position, e.settings), (Model.placed?_eq_some_iff hm).2 he, rfl⟩
  · rintro ⟨r, hr, rfl⟩
    exact (Model.placed?_eq_some_iff hm).1 hr

/-- The settings that are found are those of the model. -/
theorem get?_of_find? {name : String} {e : Placed} (he : k.find? name = some e) :
    m.get? name = some e.settings := by
  have hname : e.name = name := by simpa using List.find?_some he
  have hmem := h.entries_perm.subset (List.mem_of_find?_eq_some he)
  exact (Model.get?_eq_some_iff hm).2 ⟨List.mem_of_getElem? (Placed.mem_numbered.1 hmem), hname⟩

/-- The position of a column is the place of its name. -/
theorem entries_eq : k.entries = (k.entries.map Placed.settings).map fun t =>
    ⟨t, m.names.idxOf t.name⟩ := by
  have hplace : ∀ e ∈ k.entries, (⟨e.settings, m.names.idxOf e.name⟩ : Placed) = e := by
    intro e he
    have hmem := h.entries_perm.subset he
    rw [Placed.numbered_eq_map hm] at hmem
    obtain ⟨t, -, rfl⟩ := List.mem_map.1 hmem
    rfl
  rw [List.map_map]
  exact (List.map_id _).symm.trans (List.map_congr_left fun e he => (hplace e he).symm)

/-- A keyed model that stands for a model is known by the order of its entries. -/
theorem eq_of_settings_eq {k' : KeyedModel} (h' : k'.StandsFor m)
    (hsettings : k'.entries.map Placed.settings = k.entries.map Placed.settings) : k' = k := by
  have hentries : k'.entries = k.entries := by rw [h'.entries_eq hm, h.entries_eq hm, hsettings]
  exact KeyedModel.ext (h'.raw_eq.trans h.raw_eq.symm) hentries (h'.mode_eq.trans h.mode_eq.symm)
    (h'.keepUnknown_eq.trans h.keepUnknown_eq.symm) (h'.anchor_eq.trans h.anchor_eq.symm)

end StandsFor

/-! ### Calls -/

/-- **What a call has to answer and to hand back,** where the call on the model answers with
another model or with a fault: a keyed model that stands for the other model, or the fault and the
keyed model as it was. -/
inductive Answers (k : KeyedModel) : Except Fault Model → Except Fault Unit × KeyedModel → Prop
  | done {m' : Model} {k' : KeyedModel} (h : k'.StandsFor m') : Answers k (.ok m') (.ok (), k')
  | refused (fault : Fault) : Answers k (.error fault) (.error fault, k)

namespace Answers

variable {k : KeyedModel} {m' : Model} {fault : Fault}
  {answer : Except Fault Model} {result : Except Fault Unit × KeyedModel}

theorem exists_done (h : k.Answers (.ok m') result) :
    ∃ k', result = (.ok (), k') ∧ k'.StandsFor m' := by
  cases h with
  | done h' => exact ⟨_, rfl, h'⟩

theorem eq_refused (h : k.Answers (.error fault) result) : result = (.error fault, k) := by
  cases h with
  | refused fault => rfl

/-- **A refusal hands back the keyed model as it was.** -/
theorem eq_of_error (h : k.Answers answer result) (hresult : result.1 = .error fault) :
    result.2 = k := by
  cases h with
  | done h' => exact absurd hresult.symm error_ne_ok
  | refused fault' => rfl

/-- What is handed back stands for the model after the call, whatever was answered. -/
theorem standsFor_after {m : Model} {e : Edit} (h : k.Answers (e.apply m) result)
    (hk : k.StandsFor m) : result.2.StandsFor (m.after e) := by
  rw [Model.after]
  generalize e.apply m = answer at h
  cases h with
  | done h' => exact h'
  | refused fault => exact hk

end Answers

/-- A move changes positions only. -/
theorem map_settings_moveTo (k : KeyedModel) (name : String) (position : ℕ) :
    (k.moveTo name position).2.entries.map Placed.settings = k.entries.map Placed.settings := by
  rw [moveTo]
  rcases k.find? name with _ | e
  · rfl
  · exact Placed.map_settings_placeAll _ _

namespace StandsFor

variable {k : KeyedModel} {m : Model} (h : k.StandsFor m)
include h

/-- **Settings are changed where they are found,** and no position is given. -/
theorem edit (hm : m.names.Nodup) (name : String)
    (f : Transformation → Except Fault Transformation) :
    k.Answers (m.edit name f) (k.edit name f) := by
  rw [Model.edit, KeyedModel.edit]
  rcases hfind : k.find? name with _ | e
  · rw [h.find?_eq_none_iff.1 hfind]
    exact .refused _
  · rw [h.get?_of_find? hm hfind]
    rcases hf : f e.settings with fault | t
    · simp only [hf]
      exact .refused fault
    · simp only [hf]
      refine .done ⟨h.raw_eq, ?_, h.mode_eq, h.keepUnknown_eq, h.anchor_eq⟩
      simp only [Model.modify, Placed.numbered_map]
      have hsame : ∀ e : Placed, (if e.name = name then { e with settings := t } else e) =
          { e with settings := if e.settings.name = name then t else e.settings } := by
        intro e
        by_cases he : e.name = name
        · rw [if_pos he, if_pos (show e.settings.name = name from he)]
        · rw [if_neg he, if_neg (show ¬e.settings.name = name from he)]
      rw [funext hsame]
      exact h.entries_perm.map _

/-- **A move gives every column the place of its name in the new order.** -/
theorem moveTo (hm : m.names.Nodup) (name : String) (position : ℕ) :
    k.Answers (m.moveTo name position) (k.moveTo name position) := by
  have hnames : k.ordered.map Placed.name = m.names := by
    rw [h.ordered_eq, Placed.map_name_numbered, Model.names]
  rcases hfind : k.find? name with _ | e
  · rw [Model.moveTo, KeyedModel.moveTo, hfind, h.find?_eq_none_iff.1 hfind]
    exact .refused _
  · obtain ⟨m', hmoved⟩ : ∃ m', m.moveTo name position = .ok m' := by
      rw [Model.moveTo, h.get?_of_find? hm hfind]
      exact ⟨_, rfl⟩
    obtain ⟨t, -, hm'⟩ := Model.moveTo_eq_ok_iff.1 hmoved
    have hperm := Model.columns_perm_moveTo hm hmoved
    have hd : m'.names.Nodup := (hperm.map Transformation.name).nodup_iff.2 hm
    -- the positions are given along the names of the model that was moved
    have hplaced : Placed.placeAll 0 m'.names k.entries =
        (k.entries.map Placed.settings).map fun t => ⟨t, m'.names.idxOf t.name⟩ :=
      Placed.placeAll_eq_map_settings hd fun e he => (hperm.map Transformation.name).mem_iff.2
        (h.names_perm.subset (List.mem_map_of_mem he))
    rw [hmoved, KeyedModel.moveTo, hfind]
    simp only [hnames, ← Model.names_of_moveTo hmoved]
    refine .done ⟨hm' ▸ h.raw_eq, ?_, hm' ▸ h.mode_eq, hm' ▸ h.keepUnknown_eq, hm' ▸ h.anchor_eq⟩
    rw [hplaced, Placed.numbered_eq_map hd]
    exact (h.map_settings_perm.trans hperm.symm).map _

/-- **A keyed model that is carried over** is the model carried over, by name. -/
theorem reslot_eq (hm : m.names.Nodup) (raw : RawSpec) (mode : FilterMode) :
    k.reslot raw mode = ofModel (m.reslot raw mode) := by
  let placed (r : ℕ × Transformation) : Placed := ⟨r.2, r.1⟩
  generalize hnew : raw.relevant mode = new
  have hcarried : (new.filterMap fun c => (k.find? c.name).map (·.carryOver c)) =
      (m.carried new).map placed := by
    rw [Model.carried, List.map_filterMap]
    refine List.filterMap_congr fun c _ => ?_
    rw [h.find?_eq hm, Option.map_map, Option.map_map]
    rfl
  have hranked : Placed.inOrder ((m.carried new).map placed) = (m.ranked new).map placed := by
    rw [Placed.inOrder, Model.ranked]
    exact (List.map_mergeSort (f := placed) fun _ _ _ _ => rfl).symm
  have hcount : ((m.ranked new).map placed).countP (fun e => e.position < k.anchor) =
      (m.ranked new).countP fun r => r.1 < m.anchor := by
    rw [List.countP_map, h.anchor_eq]
    rfl
  have hdiscovered : (new.filter fun c => (k.find? c.name).isNone) =
      new.filter fun c => (m.get? c.name).isNone := by
    refine List.filter_congr fun c _ => ?_
    rw [Bool.eq_iff_iff, Option.isNone_iff_eq_none, Option.isNone_iff_eq_none,
      h.find?_eq_none_iff]
  rw [reslot, Model.reslot, ofModel]
  simp only [hnew, hcarried, hranked, hcount, hdiscovered, h.keepUnknown_eq, List.map_map]
  rfl

/-- A keyed model that is carried over stands for the model carried over. -/
theorem reslot (hm : m.names.Nodup) (raw : RawSpec) (mode : FilterMode) :
    (k.reslot raw mode).StandsFor (m.reslot raw mode) := by
  rw [h.reslot_eq hm]
  exact standsFor_ofModel (Model.aligned_reslot hm raw mode)

theorem setMode (hm : m.names.Nodup) (mode : FilterMode) :
    k.Answers (m.setMode mode) (k.setMode mode) := by
  rw [Model.setMode, KeyedModel.setMode, h.mode_eq, h.raw_eq]
  by_cases hmode : mode = m.mode
  · rw [if_pos hmode, if_pos hmode]
    exact .done h
  · rw [if_neg hmode, if_neg hmode]
    by_cases hlacks : Model.lacksShared mode m.raw = true
    · rw [if_pos hlacks, if_pos hlacks]
      exact .refused _
    · rw [if_neg hlacks, if_neg hlacks]
      exact .done (h.reslot hm m.raw mode)

end StandsFor

/-! ### Runs -/

/-- What a call answers, and the keyed model that it hands back. -/
def apply (k : KeyedModel) : Edit → Except Fault Unit × KeyedModel
  | .setKeep name keep => k.setKeep name keep
  | .rename name outputName => k.rename name outputName
  | .setPath name path => k.setPath name path
  | .moveTo name position => k.moveTo name position
  | .setKeepUnknown keep => (.ok (), k.setKeepUnknown keep)
  | .setAnchor position => (.ok (), k.setAnchor position)
  | .setMode mode => k.setMode mode
  | .reset name => k.reset name
  | .reconcile raw => (.ok (), k.reconcile raw)

/-- All keyed models of a run, the first one included. -/
def trace (k : KeyedModel) : List Edit → List KeyedModel
  | [] => [k]
  | e :: es => k :: trace (k.apply e).2 es

variable {k : KeyedModel} {m : Model}

/-- **Every call does what it does on the model.** -/
theorem StandsFor.apply (h : k.StandsFor m) (hm : m.names.Nodup) (e : Edit) :
    k.Answers (e.apply m) (k.apply e) := by
  cases e with
  | setKeep name keep => exact h.edit hm name _
  | rename name outputName => exact h.edit hm name _
  | setPath name path => exact h.edit hm name _
  | reset name => exact h.edit hm name _
  | moveTo name position => exact h.moveTo hm name position
  | setKeepUnknown keep =>
    exact .done ⟨h.raw_eq, h.entries_perm, h.mode_eq, rfl, h.anchor_eq⟩
  | setAnchor position =>
    exact .done ⟨h.raw_eq, h.entries_perm, h.mode_eq, h.keepUnknown_eq,
      congrArg (min position) h.length_eq⟩
  | setMode mode => exact h.setMode hm mode
  | reconcile raw =>
    refine .done ?_
    rw [KeyedModel.reconcile, h.mode_eq]
    exact h.reslot hm raw m.mode

/-- **Every run does what it does on the model.** The induction is on the calls, and it needs a
model that is aligned, since a column is found by its name. -/
theorem StandsFor.trace (h : k.StandsFor m) (hm : m.Aligned) (es : List Edit) :
    List.Forall₂ (fun k m => k.StandsFor m ∧ m.Aligned) (k.trace es) (m.trace es) := by
  induction es generalizing k m with
  | nil => exact .cons ⟨h, hm⟩ .nil
  | cons e es ih =>
    exact .cons ⟨h, hm⟩ (ih ((h.apply hm.distinct e).standsFor_after h)
      (Model.keptByCalls_aligned.after hm e))

/-- Every keyed model of a run stands for a model of the run. -/
theorem StandsFor.exists_of_mem_trace (h : k.StandsFor m) (hm : m.Aligned) {es : List Edit}
    {k' : KeyedModel} (hk' : k' ∈ k.trace es) :
    ∃ m' ∈ m.trace es, k'.StandsFor m' ∧ m'.Aligned := by
  have hrun := h.trace hm es
  obtain ⟨i, hi, rfl⟩ := List.getElem_of_mem hk'
  have hi' : i < (m.trace es).length := hrun.length_eq ▸ hi
  exact ⟨_, List.getElem_mem hi', hrun.get hi hi'⟩

end KeyedModel

end OneTable
