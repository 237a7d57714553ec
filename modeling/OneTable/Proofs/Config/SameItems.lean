import OneTable.Proofs.Config.Idempotence
import OneTable.Proofs.Record.Decode

/-!
# The output after reconciling with the same items

Nothing has changed in the items, so nothing should change in the output. For a configuration
that was rendered from a model this is so, but a configuration may also come from a caller or
from a document, and then three things can be said in it that no model can hold. A column can
fill a slot of the output although the filter mode does not show it; a column that is shown and
kept can be left out of the output order; and the type of an output column can be another one
than that which its path leads to. On the way through the model the first column is given up,
the second is put behind those that have a slot, and the third is given the type of its path.

This is all that happens: `OneTable.Config.carriedSlots` says what the output is afterwards, for
every configuration that is accepted, and it is the old output exactly if none of the three
things is said. Names and raw names, places and paths are not touched in any case.

* `OneTable.Config.Accepted` – configurations that were built or loaded;
* `OneTable.Config.FillsMode`, `OneTable.Config.TypedByPaths` – the configurations that say
  nothing of this kind, with `OneTable.Config.carriedSlots_eq_slots_iff`;
* `OneTable.Config.Aligned.slots_rendering_ofConfig` – the output after a model was loaded and
  rendered;
* `OneTable.Config.Accepted.output_reconcile_items` – **the output after reconciling with the
  same items**.
-/

namespace OneTable

/-- A setting with the type that its path leads to. -/
def Setting.converted (s : Setting) : Setting :=
  { s with output.type := s.path.destination }

/-- A slot with the type that its path leads to. -/
def Slot.converted (s : Slot) : Slot :=
  { s with setting := s.setting.converted }

theorem Slot.converted_eq_self_iff {s : Slot} :
    s.converted = s ↔ s.setting.output.type = s.setting.path.destination := by
  obtain ⟨i, ⟨n, ⟨o, t⟩, p, k⟩⟩ := s
  simp [converted, Setting.converted, eq_comm]

namespace Config

variable {c : Config}

/-! ### Slots -/

section Slots

variable {settings : List Setting} {i : ℕ} {s : Slot}

theorem slot?_of_getElem? {t : Setting} (h : settings[i]? = some t) :
    slot? settings i = if t.keep then some ⟨i, t⟩ else none := by
  rw [slot?, h]

theorem rawIndex_of_slot?_eq_some (h : slot? settings i = some s) : s.rawIndex = i := by
  rw [slot?] at h
  split at h
  · split at h
    · exact congrArg Slot.rawIndex (Option.some.inj h).symm
    · exact absurd h (by simp)
  · exact absurd h (by simp)

/-- Slots are chosen by choosing places. -/
theorem filterMap_slot?_filter (p : ℕ → Bool) (places : List ℕ) :
    (places.filter p).filterMap (slot? settings) =
      (places.filterMap (slot? settings)).filter fun s => p s.rawIndex := by
  rw [List.filterMap_filter, List.filter_filterMap]
  refine List.filterMap_congr fun i _ => ?_
  rcases hs : slot? settings i with _ | s
  · simp
  · rw [Option.filter_some, rawIndex_of_slot?_eq_some hs]

end Slots

/-- The slots that the filter mode shows, in output order. -/
def shownSlots (c : Config) : List Slot :=
  c.slots.filter (·.rawIndex ∈ c.raw.shownIndices c.mode)

/-- The slots that columns would fill if they were in the output order: columns that are shown
and kept, in raw order. -/
def unplacedSlots (c : Config) : List Slot :=
  ((c.raw.shownIndices c.mode).filter (· ∉ c.order)).filterMap (slot? c.settings)

/-- **What the output is after reconciling with the same items.** -/
def carriedSlots (c : Config) : List Slot :=
  (c.shownSlots ++ c.unplacedSlots).map Slot.converted

/-- **The slots are those of the filter mode:** whatever fills a slot is shown, and whatever is
shown and kept fills a slot. -/
structure FillsMode (c : Config) : Prop where
  shown : ∀ s ∈ c.slots, s.rawIndex ∈ c.raw.shownIndices c.mode
  placed : c.unplacedSlots = []

/-- **Every output column has the type that its path leads to.** -/
def TypedByPaths (c : Config) : Prop :=
  ∀ s ∈ c.slots, s.setting.output.type = s.setting.path.destination

theorem FillsMode.shownSlots_eq (h : c.FillsMode) : c.shownSlots = c.slots :=
  List.filter_eq_self.2 fun s hs => decide_eq_true (h.shown s hs)

/-- Where the slots are those of the mode, only types may change. -/
theorem FillsMode.carriedSlots_eq (h : c.FillsMode) :
    c.carriedSlots = c.slots.map Slot.converted := by
  rw [carriedSlots, h.shownSlots_eq, h.placed, List.append_nil]

/-- Slots that have the types of their paths keep them. -/
theorem typedByPaths_iff : c.TypedByPaths ↔ c.slots.map Slot.converted = c.slots := by
  constructor
  · intro h
    exact (List.map_congr_left fun s hs => Slot.converted_eq_self_iff.2 (h s hs)).trans
      (List.map_id' _)
  · intro h s hs
    have hmap : c.slots.map Slot.converted = c.slots.map id := by rw [h, List.map_id]
    exact Slot.converted_eq_self_iff.1 (List.map_inj_left.1 hmap s hs)

/-- What is in the output afterwards is shown. -/
theorem rawIndex_of_mem_carriedSlots {s : Slot} (h : s ∈ c.carriedSlots) :
    s.rawIndex ∈ c.raw.shownIndices c.mode := by
  obtain ⟨s', hs, rfl⟩ := List.mem_map.1 h
  rcases List.mem_append.1 hs with hs | hs
  · exact of_decide_eq_true (List.mem_filter.1 hs).2
  · obtain ⟨i, hi, hslot⟩ := List.mem_filterMap.1 hs
    exact (rawIndex_of_slot?_eq_some hslot).symm ▸ (List.mem_filter.1 hi).1

/-- **The output stays what it is** exactly where the slots are those of the mode and have the
types of their paths. -/
theorem carriedSlots_eq_slots_iff : c.carriedSlots = c.slots ↔ c.FillsMode ∧ c.TypedByPaths := by
  constructor
  · intro h
    have hshown : ∀ s ∈ c.slots, s.rawIndex ∈ c.raw.shownIndices c.mode := fun s hs =>
      rawIndex_of_mem_carriedSlots (h ▸ hs)
    have hslots : c.shownSlots = c.slots :=
      List.filter_eq_self.2 fun s hs => decide_eq_true (hshown s hs)
    -- nothing was put behind, since there are as many slots as before
    have hlength : c.slots.length + c.unplacedSlots.length = c.slots.length := by
      have := congrArg List.length h
      rwa [carriedSlots, List.length_map, List.length_append, hslots] at this
    have hfills : c.FillsMode := ⟨hshown, List.length_eq_zero_iff.1 (by omega)⟩
    exact ⟨hfills, typedByPaths_iff.2 (hfills.carriedSlots_eq ▸ h)⟩
  · rintro ⟨hfills, htypes⟩
    rw [hfills.carriedSlots_eq, typedByPaths_iff.1 htypes]

/-! ### Through the model -/

/-- **Places that a model does not have fill no slot,** because they are not kept. -/
theorem filterMap_hiddenPlaces (m : Model) :
    m.hiddenPlaces.filterMap (slot? (m.raw.union.map m.setting)) = [] := by
  rw [List.filterMap_eq_nil_iff]
  intro i hi
  obtain ⟨hlt, hhidden⟩ := List.mem_filter.1 hi
  obtain ⟨d, hd⟩ : ∃ d, m.raw.union[i]? = some d :=
    ⟨_, List.getElem?_eq_getElem (List.mem_range.1 hlt)⟩
  have hname : d.name ∉ m.names := by
    intro hmem
    obtain ⟨t, ht, hname⟩ := List.mem_map.1 hmem
    have hplace : m.raw.unionIndex? t.name = some i :=
      hname.symm ▸ RawSpec.unionIndex?_of_getElem? hd
    exact of_decide_eq_true hhidden (List.mem_filterMap.2 ⟨t, ht, hplace⟩)
  have hget : (m.raw.union.map m.setting)[i]? = some (m.setting d) := by
    rw [List.getElem?_map, hd, Option.map_some]
  rw [slot?_of_getElem? hget, Model.setting_of_notMem hname]
  rfl

/-- **The output of a model** is what its columns fill. -/
theorem slots_rendering {m : Model} {rootId : String} {items : Items} :
    (m.rendering rootId items).slots =
      m.places.filterMap (slot? (m.raw.union.map m.setting)) := by
  have hslots : (m.rendering rootId items).slots =
      m.rawOrder.filterMap (slot? (m.raw.union.map m.setting)) := rfl
  rw [hslots, Model.rawOrder_eq, List.filterMap_append, filterMap_hiddenPlaces, List.append_nil]

section Carried

variable (h : c.Aligned)
include h

/-- **The places of a loaded model** are those that were ranked. -/
theorem Aligned.places_ofConfig : (Model.ofConfig c).places = Model.shownPlaces c := by
  have hplaces : (Model.ofConfig c).places = ((Model.shownPlaces c).filterMap
      (Model.transformation? c)).filterMap fun t => c.raw.unionIndex? t.name := rfl
  rw [hplaces, List.filterMap_filterMap]
  refine (List.filterMap_congr fun i hi => ?_).trans List.filterMap_some
  -- what was loaded for a place is about the column there, which is found by its name
  obtain ⟨d, s, hd, hs⟩ := h.exists_setting (Model.lt_of_mem_shownPlaces h.order_nodup hi)
  rw [Model.transformation?_eq_some_iff.2 ⟨d, s, hd, hs, rfl⟩, Option.bind_some]
  exact RawSpec.unionIndex?_of_getElem? hd

/-- **What is rendered for a place that is shown** is what was loaded there, with the type of
its path. -/
theorem Aligned.setting_ofConfig {i : ℕ} (hi : i ∈ Model.shownPlaces c) {d : Column}
    {s : Setting} (hd : c.raw.union[i]? = some d) (hs : c.settings[i]? = some s) :
    (Model.ofConfig c).setting d = s.converted := by
  have hmem : ⟨d, s.path, s.keep, s.output.name⟩ ∈ (Model.ofConfig c).columns :=
    List.mem_filterMap.2 ⟨i, hi, Model.transformation?_eq_some_iff.2 ⟨d, s, hd, hs, rfl⟩⟩
  rw [Model.setting_of_mem (Model.aligned_ofConfig h).distinct hmem, Setting.converted,
    h.rawName_eq hd hs]
  rfl

/-- A place that is shown fills a slot after rendering if it did so before loading. -/
theorem Aligned.slot?_ofConfig {i : ℕ} (hi : i ∈ Model.shownPlaces c) :
    slot? (c.raw.union.map (Model.ofConfig c).setting) i =
      (slot? c.settings i).map Slot.converted := by
  obtain ⟨d, s, hd, hs⟩ := h.exists_setting (Model.lt_of_mem_shownPlaces h.order_nodup hi)
  have hrendered : (c.raw.union.map (Model.ofConfig c).setting)[i]? = some s.converted := by
    rw [List.getElem?_map, hd, Option.map_some, h.setting_ofConfig hi hd hs]
  rw [slot?_of_getElem? hs, slot?_of_getElem? hrendered]
  -- a conversion does not change whether a column is kept
  cases hk : s.keep <;> simp [Setting.converted, Slot.converted, hk]

/-- **The output after a configuration was loaded and rendered.** -/
theorem Aligned.slots_rendering_ofConfig (rootId : String) (items : Items) :
    ((Model.ofConfig c).rendering rootId items).slots = c.carriedSlots := by
  have hslots : (Model.shownPlaces c).filterMap (slot? c.settings) =
      c.shownSlots ++ c.unplacedSlots := by
    rw [Model.shownPlaces_eq, List.filterMap_append, filterMap_slot?_filter, shownSlots, slots,
      unplacedSlots]
  rw [slots_rendering, h.places_ofConfig, carriedSlots, ← hslots, List.map_filterMap]
  exact List.filterMap_congr fun i hi => h.slot?_ofConfig hi

end Carried

/-! ### Configurations that are accepted -/

/-- **A configuration that is accepted:** it was built from a draft, or it was loaded from a
document of any version. -/
inductive Accepted (c : Config) : Prop
  | built {d : Draft} (h : d.build = .ok c)
  | loaded {text : String} {fallback : ColumnType} (h : ofDocument text fallback = .ok c)

theorem Accepted.aligned (h : c.Accepted) : c.Aligned := by
  cases h with
  | built h => exact Draft.aligned_of_build h
  | loaded h =>
    obtain ⟨r, hr⟩ := ofDocument_eq_ok h
    exact (Record.aligned_of_decode hr).1

/-- **The output after reconciling with the same items:** what was in the output and is shown,
in its order, and behind it what is shown and kept and was not in the output order, all with the
types that their paths lead to. So output paths, names and their order stay what they are where
the slots are those of the filter mode, and types stay what they are where they are those of
the paths. -/
theorem Accepted.output_reconcile_items (h : c.Accepted)
    (hmode : c.mode = .union ∨ c.raw.intersection ≠ []) :
    ∃ c', c.reconcile c.items = .ok c' ∧ c'.slots = c.carriedSlots ∧
      (c'.slots = c.slots ↔ c.FillsMode ∧ c.TypedByPaths) ∧
      (c.FillsMode → c'.outputPaths = c.outputPaths ∧
        c'.slots.map (·.setting.output.name) = c.slots.map (·.setting.output.name)) ∧
      (c.FillsMode → c.TypedByPaths → c'.outputSchema = c.outputSchema) := by
  have hshared : Model.lacksShared c.mode c.raw = false := by
    rcases hmode with hmode | hmode <;> simp [Model.lacksShared, hmode]
  have hslots := h.aligned.slots_rendering_ofConfig c.rootId c.items
  refine ⟨(Model.ofConfig c).rendering c.rootId c.items, h.aligned.reconcile_items hshared,
    hslots, hslots ▸ carriedSlots_eq_slots_iff, fun hfills => ?_, fun hfills htypes => ?_⟩
  · rw [outputPaths, outputPaths, hslots, hfills.carriedSlots_eq, List.map_map, List.map_map]
    exact ⟨rfl, rfl⟩
  · rw [outputSchema, outputSchema, hslots, carriedSlots_eq_slots_iff.2 ⟨hfills, htypes⟩]

/-- A draft for the two regions that leaves names and types alone. -/
def ordersDraft : Draft where
  rootId := "sales"
  items := Model.ordersGroup
  schema := [⟨"order", .integer⟩, ⟨"day", .date⟩]
  paths := [.standard .integer, .standard .date]
  names := ["order", "day"]

/-- Only the shared column has a slot, which no model says: it has the others behind it. -/
def sharedDraft : Draft :=
  { ordersDraft with mode := .intersection, order := some [0] }

/-- The configuration of that draft. -/
def sharedConfig : Config :=
  sharedDraft.configFor Model.ordersRaw

theorem Accepted.output_reconcile_items_shared :
    sharedConfig.Accepted ∧ sharedConfig.raw.intersection ≠ [] ∧
    sharedConfig.FillsMode ∧ sharedConfig.TypedByPaths ∧
    ∃ c', sharedConfig.reconcile sharedConfig.items = .ok c' ∧
      c'.outputSchema = sharedConfig.outputSchema ∧
      c'.outputPaths = sharedConfig.outputPaths := by
  have haccepted : sharedConfig.Accepted := .built (d := sharedDraft) (by decide +kernel)
  have hmode : sharedConfig.raw.intersection ≠ [] := by decide
  have hfills : sharedConfig.FillsMode := ⟨by decide +kernel, by decide +kernel⟩
  have htypes : sharedConfig.TypedByPaths := by
    rw [TypedByPaths]
    decide +kernel
  obtain ⟨c', hc, -, -, hpaths, hschema⟩ := haccepted.output_reconcile_items (Or.inr hmode)
  exact ⟨haccepted, hmode, hfills, htypes, c', hc, hschema hfills htypes, (hpaths hfills).1⟩

/-- The day has a slot, but it is not shared. -/
def hiddenDraft : Draft :=
  { ordersDraft with mode := .intersection }

/-- The day is kept and has no slot. -/
def unplacedDraft : Draft :=
  { ordersDraft with order := some [0] }

/-- The orders are said to be texts, and their path leads to integers. -/
def retypedDraft : Draft :=
  { ordersDraft with schema := [⟨"order", .string⟩, ⟨"day", .date⟩] }

/-- **The output may change in three ways:** a column that is not shown is given up, one that has
no slot is put behind the others, and a type that is not that of the path is corrected. -/
theorem output_reconcile_items_changes :
    (∃ c c', hiddenDraft.build = .ok c ∧ c.raw.intersection ≠ [] ∧
      c.reconcile c.items = .ok c' ∧
      c.outputSchema = .ok [⟨"order", .integer⟩, ⟨"day", .date⟩] ∧
      c'.outputSchema = .ok [⟨"order", .integer⟩] ∧ c'.outputPaths ≠ c.outputPaths) ∧
    (∃ c c', unplacedDraft.build = .ok c ∧ c.mode = .union ∧
      c.reconcile c.items = .ok c' ∧
      c.outputSchema = .ok [⟨"order", .integer⟩] ∧
      c'.outputSchema = .ok [⟨"order", .integer⟩, ⟨"day", .date⟩] ∧
      c'.outputPaths ≠ c.outputPaths) ∧
    ∃ c c', retypedDraft.build = .ok c ∧ c.mode = .union ∧
      c.reconcile c.items = .ok c' ∧
      c.outputSchema = .ok [⟨"order", .string⟩, ⟨"day", .date⟩] ∧
      c'.outputSchema = .ok [⟨"order", .integer⟩, ⟨"day", .date⟩] := by
  have hhidden : hiddenDraft.build = .ok (hiddenDraft.configFor Model.ordersRaw) := by
    decide +kernel
  have hunplaced : unplacedDraft.build = .ok (unplacedDraft.configFor Model.ordersRaw) := by
    decide +kernel
  have hretyped : retypedDraft.build = .ok (retypedDraft.configFor Model.ordersRaw) := by
    decide +kernel
  refine ⟨⟨_, _, hhidden, ?_, (Draft.aligned_of_build hhidden).reconcile_items rfl, ?_⟩,
    ⟨_, _, hunplaced, rfl, (Draft.aligned_of_build hunplaced).reconcile_items rfl, ?_⟩,
    ⟨_, _, hretyped, rfl, (Draft.aligned_of_build hretyped).reconcile_items rfl, ?_⟩⟩
  all_goals decide +kernel

end Config

end OneTable
