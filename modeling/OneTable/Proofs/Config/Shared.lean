import OneTable.Proofs.Config.Totality
import OneTable.Proofs.Record.Upgrade

/-!
# Whether an output shows shared columns only

In the intersection mode a model has the columns that all items share, and nothing else. The output
of a configuration is found without asking for the mode: it is what the output order mentions and
the flags keep. A model says both, so that its columns are kept or not, and all others are dropped.
A caller and a document say both on their own, and they may keep a column that some item does not
have, or not say at all what is kept: then a new configuration keeps everything, and an old document
keeps what its output lists. Nothing is done about that until the configuration is loaded into a
model, which gives such a column up.

* `OneTable.Config.SharedOnly` – the output shows shared columns only;
* `OneTable.RawSpec.shared_iff_shown` – a union column is shared if the intersection mode shows it;
* `OneTable.Config.Aligned.sharedOnly_iff_dropped` – the output shows shared columns only if all
  others are dropped;
* `OneTable.Config.FromModel.sharedOnly` – an output that was chosen in a model does;
* `OneTable.Config.Accepted.sharedOnly_iff` – **when an output shows shared columns only,** for
  every configuration that is accepted;
* `OneTable.Config.Accepted.not_sharedOnly_hidden` – one that does not.
-/

namespace OneTable

/-! ### Shared columns and their places -/

/-- **Every item has a column of the name.** -/
def Items.Share (is : Items) (name : String) : Prop :=
  ∀ item spec, (item, spec) ∈ is.entries → name ∈ spec.names

namespace RawSpec

variable {raw : RawSpec} {i : ℕ} {d : Column}

/-- A place is shown if the column there is. -/
theorem mem_shownIndices_iff {mode : FilterMode} (hd : raw.union[i]? = some d) :
    i ∈ raw.shownIndices mode ↔ d ∈ raw.relevant mode := by
  constructor
  · intro hi
    obtain ⟨u, hu, hplace⟩ := List.mem_filterMap.1 hi
    obtain ⟨j, hj, hget⟩ := getElem?_of_unionIndex? hu
    obtain rfl : j = i := Option.some.inj (hj.symm.trans hplace)
    exact Option.some.inj (hget.symm.trans hd) ▸ hu
  · intro hmem
    exact List.mem_filterMap.2 ⟨d, hmem, unionIndex?_of_getElem? hd⟩

/-- **A union column is shared** if the intersection mode shows it. -/
theorem shared_iff_shown {items : Items} (hraw : ofItems? items = some raw)
    (hd : raw.union[i]? = some d) :
    items.Share d.name ↔ i ∈ raw.shownIndices .intersection := by
  rw [mem_shownIndices_iff hd, relevant, (ofItems?_eq_some_iff.1 hraw).2.2, List.mem_filter,
    shares_eq, decide_eq_true_iff, and_iff_right (List.mem_of_getElem? hd)]
  exact ⟨fun h e he => h e.1 e.2 he, fun h item spec he => h (item, spec) he⟩

end RawSpec

namespace Config

variable {c loaded : Config} {s : Slot}

/-- **The output shows shared columns only:** what fills a slot is, under its own name, a column of
every item. -/
def SharedOnly (c : Config) : Prop :=
  ∀ s ∈ c.slots, c.items.Share s.setting.rawName

/-- What fills a slot is mentioned in the output order, and kept. -/
theorem mem_slots_iff : s ∈ c.slots ↔
    s.rawIndex ∈ c.order ∧ c.settings[s.rawIndex]? = some s.setting ∧ s.setting.keep = true := by
  constructor
  · intro h
    obtain ⟨i, hi, hslot⟩ := List.mem_filterMap.1 h
    obtain rfl := rawIndex_of_slot?_eq_some hslot
    have hget := getElem?_of_mem_slots h
    rw [slot?_of_getElem? hget] at hslot
    refine ⟨hi, hget, ?_⟩
    by_contra hkeep
    rw [if_neg hkeep] at hslot
    exact absurd hslot.symm (Option.some_ne_none s)
  · rintro ⟨horder, hget, hkeep⟩
    exact List.mem_filterMap.2 ⟨s.rawIndex, horder, by rw [slot?_of_getElem? hget, if_pos hkeep]⟩

/-- The output shows shared columns only if all names are shared that are mentioned and kept. -/
theorem sharedOnly_iff_names : c.SharedOnly ↔
    ∀ i ∈ c.order, c.keepFlags[i]? = some true → ∀ n, c.rawNames[i]? = some n →
      c.items.Share n := by
  simp only [keepFlags, rawNames, List.getElem?_map, Option.map_eq_some_iff]
  constructor
  · rintro h i hi ⟨t, ht, hkeep⟩ n ⟨t', ht', rfl⟩
    obtain rfl := Option.some.inj (ht.symm.trans ht')
    exact h ⟨i, t⟩ (mem_slots_iff.2 ⟨hi, ht, hkeep⟩)
  · intro h s hs
    obtain ⟨horder, hget, hkeep⟩ := mem_slots_iff.1 hs
    exact h s.rawIndex horder ⟨s.setting, hget, hkeep⟩ _ ⟨s.setting, hget, rfl⟩

section Aligned

variable (h : c.Aligned)
include h

/-- **What fills a slot is shared** if the intersection mode shows it. -/
theorem Aligned.share_iff_shown (hs : s ∈ c.slots) :
    c.items.Share s.setting.rawName ↔ s.rawIndex ∈ c.raw.shownIndices .intersection := by
  obtain ⟨horder, hget, -⟩ := mem_slots_iff.1 hs
  obtain ⟨d, t, hd, ht⟩ := h.exists_setting (h.order_lt _ horder)
  obtain rfl : t = s.setting := Option.some.inj (ht.symm.trans hget)
  rw [h.rawName_eq hd hget]
  exact RawSpec.shared_iff_shown h.raw_eq hd

/-- **The output shows shared columns only** if all other columns that it mentions are dropped. -/
theorem Aligned.sharedOnly_iff_dropped : c.SharedOnly ↔
    ∀ i ∈ c.order, i ∉ c.raw.shownIndices .intersection → c.keepFlags[i]? = some false := by
  constructor
  · intro hshared i hi hhidden
    obtain ⟨-, t, -, ht⟩ := h.exists_setting (h.order_lt i hi)
    rw [keepFlags, List.getElem?_map, ht, Option.map_some]
    by_contra hkeep
    have hs : (⟨i, t⟩ : Slot) ∈ c.slots :=
      mem_slots_iff.2 ⟨hi, ht, Bool.not_eq_false _ ▸ fun hc => hkeep (congrArg some hc)⟩
    exact hhidden ((h.share_iff_shown hs).1 (hshared _ hs))
  · intro hdropped s hs
    obtain ⟨horder, hget, hkeep⟩ := mem_slots_iff.1 hs
    refine (h.share_iff_shown hs).2 ?_
    by_contra hhidden
    have hflag := hdropped _ horder hhidden
    rw [keepFlags, List.getElem?_map, hget, Option.map_some, hkeep] at hflag
    exact absurd (Option.some.inj hflag).symm Bool.false_ne_true

end Aligned

/-! ### Outputs that were chosen in a model -/

/-- **A configuration whose output was chosen in a model of its items:** a fresh one, one that such
a model was rendered as, and one that was carried over to the items. -/
inductive FromModel (c : Config) : Prop
  | fresh {rootId : String} {items : Items} {mode : FilterMode}
      (h : Config.fresh rootId items mode = .ok c)
  | rendered {m : Model} {rootId : String} {items : Items} (hm : m.ReachableFrom Model.IsFresh)
      (hitems : RawSpec.ofItems? items = some m.raw) (h : m.toConfig rootId items = .ok c)
  | reconciled {old : Config} {items : Items} (hold : old.Accepted)
      (h : old.reconcile items = .ok c)

/-- **What is rendered from a model of shared columns** shows shared columns only. -/
theorem sharedOnly_of_toConfig {m : Model} {rootId : String} {items : Items} (hm : m.Aligned)
    (hsourced : m.Sourced) (hitems : RawSpec.ofItems? items = some m.raw)
    (h : m.toConfig rootId items = .ok c) (hmode : c.mode = .intersection) : c.SharedOnly := by
  obtain rfl := Except.ok.inj (h.symm.trans (Model.toConfig_eq_ok hm hsourced hitems))
  refine (Draft.aligned_of_build h).sharedOnly_iff_dropped.2 fun i hi hhidden => ?_
  obtain ⟨d, hd⟩ : ∃ d, m.raw.union[i]? = some d :=
    ⟨_, List.getElem?_eq_getElem (hm.lt_of_mem_rawOrder i hi)⟩
  have hother : d ∉ m.raw.relevant m.mode := fun hshown =>
    hhidden ((RawSpec.mem_shownIndices_iff hd).2 (hmode ▸ hshown))
  have hkeep := hm.keep_setting_of_hidden (List.mem_of_getElem? hd) hother
  rw [keepFlags, Model.rendering, List.getElem?_map, List.getElem?_map, hd, Option.map_some,
    Option.map_some, hkeep]

/-- **An output that was chosen in a model** shows shared columns only. -/
theorem FromModel.sharedOnly (h : c.FromModel) (hmode : c.mode = .intersection) :
    c.SharedOnly := by
  cases h with
  | fresh h =>
    obtain ⟨raw, m, hraw, hm, h⟩ := fresh_eq_ok_iff.1 h
    obtain ⟨halign, hoff⟩ := Model.aligned_fresh hm
    obtain rfl := Except.ok.inj (guard_eq_ok_iff.1 hm).2
    exact sharedOnly_of_toConfig halign hoff.sourced hraw h hmode
  | rendered hm hitems h =>
    obtain ⟨halign, hoff⟩ := hm.aligned_of_fresh
    exact sharedOnly_of_toConfig halign hoff.sourced hitems h hmode
  | reconciled hold h =>
    obtain ⟨raw, hraw, -, h⟩ := reconcile_eq_ok_iff.1 h
    obtain ⟨halign, hsourced⟩ := hold.aligned.carried raw
    exact sharedOnly_of_toConfig halign hsourced hraw h hmode

/-! ### Outputs that were stored -/

/-- Storing and loading does not change whether a name is shared. -/
theorem LoadedFrom.share_iff (h : c.LoadedFrom loaded) {n : String} :
    loaded.items.Share n ↔ c.items.Share n := by
  have hitems : ∀ is : Items, is.Share n ↔
      ∀ p ∈ is.entries.map (fun e => (e.1, e.2.names)), n ∈ p.2 := by
    intro is
    simp only [Items.Share, List.forall_mem_map, Prod.forall]
  rw [hitems, hitems, h.items_eq]

theorem LoadedFrom.sharedOnly_loaded_iff (h : c.LoadedFrom loaded) :
    loaded.SharedOnly ↔ c.SharedOnly := by
  simp only [sharedOnly_iff_names, h.order_eq, h.keepFlags_eq, h.rawNames_eq, h.share_iff]

/-- **The output of an old document** that says nothing about what is kept shows shared columns
only if all columns are shared that it lists. -/
theorem sharedOnly_iff_listed {r : Record} {fallback : ColumnType} {p : Record.LegacyParts}
    (hlegacy : r.Says p) (h : r.UpgradedTo fallback p c) :
    c.SharedOnly ↔ ∀ n ∈ p.names, c.items.Share n := by
  have hnames : (c.slots.map fun s => s.setting.rawName).Perm p.names := by
    have hperm := h.output_perm.map Prod.fst
    rw [List.map_map] at hperm
    exact hperm.trans (.of_eq (Record.LegacyParts.map_fst_listed hlegacy))
  simp only [← hnames.mem_iff, List.forall_mem_map]
  rfl

/-- **When an output shows shared columns only.** In the intersection mode a slot of an accepted
configuration is filled with a shared column if the mode shows the column, and that all slots are is
the same as that every column outside the intersection is dropped or not mentioned in the output
order. It is so for an output that was chosen in a model, and it is still so when such an output is
stored and loaded. A document of the old version that says nothing else keeps the columns that it
lists, and so it is so for these if they are all shared. -/
theorem Accepted.sharedOnly_iff (h : c.Accepted) (hmode : c.mode = .intersection) :
    (∀ s ∈ c.slots,
      (c.items.Share s.setting.rawName ↔ s.rawIndex ∈ c.raw.shownIndices c.mode)) ∧
    (c.SharedOnly ↔
      ∀ i ∈ c.order, i ∉ c.raw.shownIndices c.mode → c.keepFlags[i]? = some false) ∧
    (c.FromModel → c.SharedOnly ∧ ∀ loaded, c.LoadedFrom loaded → loaded.SharedOnly) ∧
    ∀ (r : Record) (fallback : ColumnType), r.version.getD Record.legacyVersion =
        Record.legacyVersion → r.decode fallback = .ok c → r.keep = none →
      r.positionalMapping = none → ∃ p, r.Says p ∧
        (p.names.Nodup → (c.SharedOnly ↔ ∀ n ∈ p.names, c.items.Share n)) := by
  rw [hmode]
  refine ⟨fun s hs => h.aligned.share_iff_shown hs, h.aligned.sharedOnly_iff_dropped,
    fun hmodel => ?_, fun r fallback hversion hdecode hkeep horder => ?_⟩
  · have hshared := hmodel.sharedOnly hmode
    exact ⟨hshared, fun loaded hloaded => hloaded.sharedOnly_loaded_iff.2 hshared⟩
  · obtain ⟨p, hlegacy, hupgraded⟩ := Record.exists_upgradedTo hversion hdecode hkeep horder
    exact ⟨p, hlegacy, fun hd => sharedOnly_iff_listed hlegacy (hupgraded hd)⟩

/-- The two regions again, where the day is said to be dropped. -/
def droppedDraft : Draft :=
  { hiddenDraft with keep := some [true, false] }

/-- The configuration of this draft. -/
def droppedConfig : Config :=
  droppedDraft.configFor Model.ordersRaw

theorem Accepted.sharedOnly_iff_dayDropped :
    droppedConfig.Accepted ∧ droppedConfig.mode = .intersection ∧ droppedConfig.SharedOnly := by
  have haccepted : droppedConfig.Accepted := .built (d := droppedDraft) (by decide +kernel)
  refine ⟨haccepted, rfl, (haccepted.sharedOnly_iff rfl).2.1.2 ?_⟩
  decide +kernel

/-- **An output need not show shared columns only:** where nothing is said about what is kept, the
day is, which the west does not have. -/
theorem Accepted.not_sharedOnly_hidden :
    ¬∀ c : Config, c.Accepted → c.mode = .intersection → c.SharedOnly := by
  intro h
  have haccepted : (hiddenDraft.configFor Model.ordersRaw).Accepted :=
    .built (d := hiddenDraft) (by decide +kernel)
  have hshared := (haccepted.aligned.sharedOnly_iff_dropped).1 (h _ haccepted rfl) 1
  exact absurd (hshared (by decide +kernel) (by decide +kernel)) (by decide +kernel)

end Config

end OneTable
