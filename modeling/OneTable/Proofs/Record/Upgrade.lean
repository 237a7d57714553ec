import OneTable.Proofs.Record.Items
import OneTable.Proofs.Watched

/-!
# What becomes of a legacy record

A legacy record lists the columns of the output, in an order of its own, and it does not say how
they stand to the columns of the items. When it is decoded there is a setting for every name that
some item has, in the order in which the names are first met: the setting that the record lists for
the name, if there is one, and else one that reads the column as the fallback type and keeps it out
of the output.

If the record lists no name twice, its own settings are therefore the output, each of them once, and
the only thing that is lost is their order. If it does list a name twice, one of the two settings
is dropped without a word; this is why the missing columns have to be counted by names, and not by
settings.

* `OneTable.Record.Says` – what a legacy record says;
* `OneTable.Record.LegacyParts.sub?_missing` – **there are never more names than union columns**;
* `OneTable.Record.runs_watchLegacy` – **no decoding of a legacy record breaks**;
* `OneTable.Record.UpgradedTo`, `OneTable.Record.upgrade` – **what a legacy record becomes**.
-/

namespace OneTable

/-! ### Output in raw order -/

namespace Config

/-- A slot has the setting at its place. -/
theorem getElem?_of_mem_slots {c : Config} {s : Slot} (h : s ∈ c.slots) :
    c.settings[s.rawIndex]? = some s.setting := by
  obtain ⟨i, -, hi⟩ := List.mem_filterMap.1 h
  rcases ht : c.settings[i]? with _ | t
  · rw [slot?, ht] at hi
    exact absurd hi.symm (Option.some_ne_none s)
  · rw [slot?_of_getElem? ht] at hi
    split at hi
    · obtain rfl := Option.some.inj hi
      exact ht
    · exact absurd hi.symm (Option.some_ne_none s)

/-- In raw order the output has the settings that are kept. -/
theorem map_setting_slots (ss : List Setting) :
    ((List.range ss.length).filterMap (slot? ss)).map Slot.setting =
      ss.filter Setting.keep := by
  have hrange : (List.range ss.length).map (fun i => ss[i]?) = ss.map some := by
    refine List.ext_getElem (by simp) fun i hi _ => ?_
    rw [List.length_map, List.length_range] at hi
    simp [hi]
  have hslot : ∀ i, (slot? ss i).map Slot.setting = ss[i]?.filter Setting.keep := fun i => by
    rw [slot?]
    rcases ss[i]? with _ | s
    · rfl
    · rw [Option.filter_some]
      by_cases hs : s.keep = true
      · simp [hs]
      · simp [hs]
  rw [List.map_filterMap, List.filterMap_congr fun i _ => hslot i]
  calc (List.range ss.length).filterMap (fun i => ss[i]?.filter Setting.keep)
    _ = ((List.range ss.length).map fun i => ss[i]?).filterMap (Option.filter Setting.keep) := by
      rw [List.filterMap_map]
      rfl
    _ = ss.filterMap fun s => (some s).filter Setting.keep := by
      rw [hrange, List.filterMap_map]
      rfl
    _ = ss.filter Setting.keep := by
      rw [← List.filterMap_eq_filter]
      refine List.filterMap_congr fun s _ => ?_
      rw [Option.filter_some, Option.guard]

end Config

namespace Record

/-! ### What a legacy record says -/

/-- **What a legacy record says.** The output names stand for raw names that it does not have. -/
structure Says (r : Record) (p : LegacyParts) : Prop where
  rootId_eq : r.rootId = some p.rootId
  items_eq : r.individualSpecs = some p.items
  schema_eq : r.outputSchema = some p.schema
  names_eq : p.names = r.rawNames.getD (p.schema.map OutputColumn.name)
  paths_eq : (r.productionPaths.getD []).map ConversionPath.resolve? = p.paths.map some
  names_length : p.names.length = p.schema.length
  paths_length : p.paths.length = p.schema.length

theorem says_of_legacyParts {r : Record} {p : LegacyParts} (h : legacyParts r = .ok p) :
    r.Says p := by
  rw [legacyParts] at h
  simp only [bind_eq_ok_iff, required_eq_ok_iff, throw_guard_eq_ok_iff, not_or, ne_eq,
    not_not] at h
  obtain ⟨rootId, hrootId, items, hitems, schema, hschema, ⟨hnames, hconverters⟩, paths, hpaths,
    hp⟩ := h
  obtain rfl := Except.ok.inj hp
  exact ⟨hrootId, hitems, hschema, rfl, resolvePaths_eq_ok_iff.1 hpaths, hnames.symm,
    (length_of_resolvePaths hpaths).trans hconverters⟩

namespace LegacyParts

variable {r : Record} {p : LegacyParts} {fallback : ColumnType} {n : String}

theorem name_column (p : LegacyParts) (fallback : ColumnType) (n : String) :
    (p.column fallback n).name = n := by
  rw [column]
  split
  · rfl
  · rfl

theorem map_name_column (p : LegacyParts) (fallback : ColumnType) (ns : List String) :
    (ns.map fun n => (p.column fallback n).name) = ns :=
  (List.map_congr_left fun n _ => p.name_column fallback n).trans (List.map_id _)

section Says

variable (h : r.Says p)
include h

/-- There is a setting for each name. -/
theorem map_fst_listed : p.listed.map Prod.fst = p.names := by
  refine List.map_fst_zip (Nat.le_of_eq ?_)
  rw [List.length_zip, h.paths_length, Nat.min_self, h.names_length]

/-- A column is listed if its name is. -/
theorem listed_column : (p.column fallback n).listed = decide (n ∈ p.names) := by
  rw [column, ← map_fst_listed h]
  rcases hlast : last? p.listed n with _ | ⟨output, path⟩
  · exact (decide_eq_false (last?_eq_none_iff.1 hlast)).symm
  · refine (decide_eq_true ?_).symm
    by_contra hn
    exact Option.some_ne_none _ (hlast.symm.trans (last?_eq_none_iff.2 hn))

/-- A name that is not listed is read as the fallback type. -/
theorem column_of_notMem (hn : n ∉ p.names) : p.column fallback n =
    ⟨n, ⟨n, (ConversionPath.standard fallback).destination⟩, .standard fallback, false⟩ := by
  rw [column, last?_eq_none_iff.2 ((map_fst_listed h).symm ▸ hn)]

/-- A name that is listed once has its setting. -/
theorem column_of_mem_listed (hd : p.names.Nodup) {output : OutputColumn} {path : ConversionPath}
    (hmem : (n, output, path) ∈ p.listed) :
    p.column fallback n = ⟨n, output, path, true⟩ := by
  rw [column, (last?_eq_some_iff ((map_fst_listed h).symm ▸ hd)).2 hmem]

end Says

/-- **There is a column for each name of an item,** if no other names are listed. -/
theorem columns_eq_ok_iff {columns : List LegacyColumn} : p.columns fallback = .ok columns ↔
    (∀ n ∈ p.names, n ∈ unionNames p.items) ∧
      columns = (unionNames p.items).map (p.column fallback) := by
  rw [LegacyParts.columns]
  rcases hstray : p.names.find? (· ∉ unionNames p.items) with _ | stray
  · have hall : ∀ n ∈ p.names, n ∈ unionNames p.items := by simpa using hstray
    exact ⟨fun h => ⟨hall, (Except.ok.inj h).symm⟩, fun h => congrArg Except.ok h.2.symm⟩
  · have hnot : stray ∉ unionNames p.items := by simpa using List.find?_some hstray
    exact iff_of_false error_ne_ok fun h => hnot (h.1 stray (List.mem_of_find?_eq_some hstray))

/-- The names of the items that are listed are the names that are listed, if no others are. -/
theorem filter_unionNames_perm (hall : ∀ n ∈ p.names, n ∈ unionNames p.items) {ns : List String}
    (hd : ns.Nodup) (hmem : ∀ n, n ∈ ns ↔ n ∈ p.names) :
    ((unionNames p.items).filter (· ∈ p.names)).Perm ns := by
  refine (List.perm_ext_iff_of_nodup ((nodup_unionNames _).filter _) hd).2 fun n => ?_
  rw [List.mem_filter, decide_eq_true_eq, and_iff_right_of_imp (hall n), hmem]

/-- The settings of names that differ are those that are listed. -/
theorem map_column_perm (h : r.Says p) (hd : p.names.Nodup)
    (hall : ∀ n ∈ p.names, n ∈ unionNames p.items) :
    (((unionNames p.items).filter (· ∈ p.names)).map fun n =>
      ((p.column fallback n).name, (p.column fallback n).output, (p.column fallback n).path)).Perm
      p.listed := by
  refine ((filter_unionNames_perm hall hd fun _ => Iff.rfl).map _).trans (.of_eq ?_)
  rw [← map_fst_listed h, List.map_map]
  refine (List.map_congr_left fun e he => ?_).trans (List.map_id _)
  rw [Function.comp_apply, column_of_mem_listed h hd he]
  rfl

/-- **There are never more names than union columns,** and what is left is the number of columns
that are not listed. -/
theorem sub?_missing (h : r.Says p) {columns : List LegacyColumn}
    (hcols : p.columns fallback = .ok columns) :
    sub? (unionNames p.items).length p.names.eraseDups.length =
      some (columns.filter fun c => !c.listed).length := by
  obtain ⟨hall, rfl⟩ := columns_eq_ok_iff.1 hcols
  have hcount := List.length_eq_length_filter_add (l := unionNames p.items) (· ∈ p.names)
  rw [(filter_unionNames_perm hall (nodup_eraseDups _) fun _ => List.mem_eraseDups).length_eq]
    at hcount
  have hmissing : ((unionNames p.items).map (p.column fallback)).filter (fun c => !c.listed) =
      ((unionNames p.items).filter fun n => !decide (n ∈ p.names)).map (p.column fallback) := by
    rw [List.filter_map]
    congr 1
    exact List.filter_congr fun n _ => by rw [Function.comp_apply, listed_column h]
  rw [hmissing, List.length_map, sub?, if_pos (by omega)]
  congr 1
  omega

end LegacyParts

/-! ### The decoding, watched -/

/-- **The decoding of a legacy record, watched.** The missing columns are counted for a warning. -/
def watchLegacy (r : Record) (fallback : ColumnType) : Watched Fault Config := do
  let p ← Watched.step (legacyParts r)
  let mode ← Watched.step (legacyMode r)
  let columns ← Watched.step (p.columns fallback)
  let _ ← Watched.ask (sub? (unionNames p.items).length p.names.eraseDups.length)
  let items ← Watched.step
    (typedItems (columns.map fun c => (c.name, c.path.source)) Items.empty p.items)
  (legacyDraft r p mode columns items).watchBuild

/-- **No decoding of a legacy record breaks.** -/
theorem runs_watchLegacy (r : Record) (fallback : ColumnType) :
    Watched.Runs (r.watchLegacy fallback) (r.decodeLegacy fallback) :=
  (Watched.runs_step _).bind fun _ hp => (Watched.runs_step _).bind fun _ _ =>
    (Watched.runs_step _).bind fun _ hcols =>
    Watched.Runs.ask_bind (LegacyParts.sub?_missing (says_of_legacyParts hp) hcols) <|
    (Watched.runs_step _).bind fun _ _ => Draft.runs_watchBuild _

/-- The setting of a column of a legacy record, if nothing else is said about what is kept. -/
def LegacyColumn.setting (c : LegacyColumn) : Setting :=
  ⟨c.name, c.output, c.path, c.listed⟩

/-! ### What a legacy record becomes -/

/-- **What a legacy record becomes.** -/
structure UpgradedTo (r : Record) (fallback : ColumnType) (p : LegacyParts) (c : Config) :
    Prop where
  union_eq : c.raw.union.map Column.name = unionNames p.items
  rawNames_eq : c.rawNames = unionNames p.items
  /-- The output has the columns that the record lists, as it lists them. -/
  output_perm : (c.slots.map fun s => (s.setting.rawName, s.setting.output, s.setting.path)).Perm
    (p.names.zip (p.schema.zip p.paths))
  /-- They stand in the order in which the items name them first. -/
  output_order : c.slots.map (fun s => s.setting.rawName) =
    (unionNames p.items).filter (· ∈ p.names)
  output_place : ∀ s ∈ c.slots, (unionNames p.items)[s.rawIndex]? = some s.setting.rawName
  /-- Every other column is dropped, under its own name. -/
  dropped : ∀ s ∈ c.settings, s.rawName ∉ p.names → s = ⟨s.rawName,
    ⟨s.rawName, (ConversionPath.standard fallback).destination⟩, .standard fallback, false⟩
  mode_of_filterMode : ∀ name, r.filterMode = some name → FilterMode.parse name = .ok c.mode
  mode_of_mergeMode : r.filterMode = none → (c.mode = .intersection ↔
    ∃ merge, r.mergeMode = some merge ∧
      Text.sameIgnoringCase (Text.trimmed merge) "intersection" = true)

section Upgraded

variable {r : Record} {fallback : ColumnType} {p : LegacyParts} {c : Config} {mode : FilterMode}

/-- The mode is the filter mode, or what the merge mode stands for. -/
theorem mode_of_legacyMode (h : legacyMode r = .ok mode) :
    (∀ name, r.filterMode = some name → FilterMode.parse name = .ok mode) ∧
      (r.filterMode = none → (mode = .intersection ↔ ∃ merge, r.mergeMode = some merge ∧
        Text.sameIgnoringCase (Text.trimmed merge) "intersection" = true)) := by
  rw [legacyMode] at h
  rcases hfilter : r.filterMode with _ | name
  · refine ⟨fun _ hname => absurd hname.symm (Option.some_ne_none _), fun _ => ?_⟩
    rcases hmerge : r.mergeMode with _ | merge <;> rw [hfilter, hmerge] at h
    · obtain rfl := Except.ok.inj h
      simp
    · obtain rfl := Except.ok.inj h
      simp [modeOfMerge, FilterMode.ofFlag]
  · rw [hfilter] at h
    refine ⟨fun _ hname => ?_, fun hnone => absurd hnone (Option.some_ne_none name)⟩
    exact Option.some.inj hname ▸ mapError_eq_ok_iff.1 h

/-- The settings of a legacy record in which nothing else is said about what is kept. -/
theorem settings_configFor (hkeep : r.keep = none) {columns : List LegacyColumn} {items : Items}
    {raw : RawSpec} :
    ((legacyDraft r p mode columns items).configFor raw).settings =
      columns.map LegacyColumn.setting := by
  have hflags : (legacyDraft r p mode columns items).keepFor raw =
      columns.map LegacyColumn.listed := by
    rw [Draft.keepFor, legacyDraft, hkeep]
    rfl
  have hmap := Draft.settings_map (columns.map LegacyColumn.setting)
  rw [List.map_map, List.map_map, List.map_map, List.map_map] at hmap
  rw [Draft.configFor, hflags]
  exact hmap

section Settings

variable (hsettings : c.settings = (unionNames p.items).map fun n => (p.column fallback n).setting)
include hsettings

theorem rawNames_of_settings : c.rawNames = unionNames p.items := by
  rw [Config.rawNames, hsettings, List.map_map]
  exact p.map_name_column fallback _

/-- In raw order the output has the settings of the names that are listed. -/
theorem map_slots_of_settings (h : r.Says p) (horder : c.order = List.range c.settings.length)
    {β : Type} (f : Setting → β) : (c.slots.map fun s => f s.setting) =
      ((unionNames p.items).filter (· ∈ p.names)).map fun n =>
        f (p.column fallback n).setting := by
  have hkept : c.slots.map Slot.setting =
      ((unionNames p.items).filter (· ∈ p.names)).map fun n => (p.column fallback n).setting := by
    rw [Config.slots, horder, Config.map_setting_slots, hsettings, List.filter_map]
    congr 1
    exact List.filter_congr fun n _ => LegacyParts.listed_column h
  have hmap := congrArg (List.map f) hkept
  rwa [List.map_map, List.map_map] at hmap

/-- A name that is not listed has the setting of a dropped column. -/
theorem eq_dropped_of_settings (h : r.Says p) {s : Setting} (hs : s ∈ c.settings)
    (hn : s.rawName ∉ p.names) : s = ⟨s.rawName,
      ⟨s.rawName, (ConversionPath.standard fallback).destination⟩, .standard fallback, false⟩ := by
  rw [hsettings] at hs
  obtain ⟨n, -, rfl⟩ := List.mem_map.1 hs
  rw [LegacyColumn.setting, p.name_column] at hn
  rw [LegacyParts.column_of_notMem h hn]
  rfl

end Settings

/-- A legacy record whose names differ becomes what it says. -/
theorem upgradedTo_of_build (h : r.Says p) (hd : p.names.Nodup) (hkeep : r.keep = none)
    (horder : r.positionalMapping = none) (hmode : legacyMode r = .ok mode)
    {columns : List LegacyColumn} (hcols : p.columns fallback = .ok columns) {items : Items}
    (hbuild : (legacyDraft r p mode columns items).build = .ok c) :
    r.UpgradedTo fallback p c := by
  have halign := Draft.aligned_of_build hbuild
  obtain ⟨raw, -, -, hc⟩ := Draft.build_eq_ok_iff.1 hbuild
  obtain ⟨hall, rfl⟩ := LegacyParts.columns_eq_ok_iff.1 hcols
  have hsettings : c.settings = (unionNames p.items).map fun n =>
      (p.column fallback n).setting := by
    rw [hc, settings_configFor hkeep, List.map_map]
    rfl
  have hnames := rawNames_of_settings hsettings
  have hraworder : c.order = List.range c.settings.length := by
    rw [halign.length_settings, hc, Draft.configFor, Draft.orderFor, legacyDraft, horder]
    rfl
  have hmodeeq : mode = c.mode := by
    rw [hc]
    rfl
  obtain ⟨hfilter, hmerge⟩ := mode_of_legacyMode (hmodeeq ▸ hmode)
  exact {
    union_eq := halign.names_eq.symm.trans hnames
    rawNames_eq := hnames
    output_perm := by
      rw [map_slots_of_settings hsettings h hraworder fun s => (s.rawName, s.output, s.path)]
      exact LegacyParts.map_column_perm h hd hall
    output_order := by
      rw [map_slots_of_settings hsettings h hraworder Setting.rawName]
      exact p.map_name_column fallback _
    output_place := fun s hs => by
      rw [← hnames, Config.rawNames, List.getElem?_map, Config.getElem?_of_mem_slots hs,
        Option.map_some]
    dropped := fun s hs hn => eq_dropped_of_settings hsettings h hs hn
    mode_of_filterMode := hfilter
    mode_of_mergeMode := hmerge }

/-- A legacy record that decodes, and says nothing about what is kept and about the order, becomes
what it says if its names differ. -/
theorem exists_upgradedTo (hversion : r.version.getD legacyVersion = legacyVersion)
    (hc : r.decode fallback = .ok c) (hkeep : r.keep = none) (horder : r.positionalMapping = none) :
    ∃ p, r.Says p ∧ (p.names.Nodup → r.UpgradedTo fallback p c) := by
  rw [decode_eq_decodeLegacy hversion] at hc
  obtain ⟨p, mode, columns, items, hparts, hmode, hcols, -, hbuild⟩ := decodeLegacy_eq_ok_iff.1 hc
  have hsays := says_of_legacyParts hparts
  exact ⟨p, hsays, fun hd => upgradedTo_of_build hsays hd hkeep horder hmode hcols hbuild⟩

end Upgraded

/-- **What becomes of a legacy record.** Its decoding does not break, and it ends with a
configuration or with a failure. If it says nothing about what is kept, and nothing about the order,
and if its names differ, then the output has the columns that it lists, as it lists them; all other
columns are read as the fallback type and dropped. -/
theorem upgrade (r : Record) (fallback : ColumnType)
    (hversion : r.version.getD legacyVersion = legacyVersion) :
    (r.watchLegacy fallback).run = some (r.decode fallback) ∧
      ∀ c, r.decode fallback = .ok c → r.keep = none → r.positionalMapping = none →
        ∃ p, r.Says p ∧ (p.names.Nodup → r.UpgradedTo fallback p c) := by
  refine ⟨?_, fun c hc hkeep horder => exists_upgradedTo hversion hc hkeep horder⟩
  rw [decode_eq_decodeLegacy hversion]
  exact r.runs_watchLegacy fallback

/-- A legacy record of two regions that lists the day in front of the order number, which the items
name first, and says nothing about the note. -/
def daysRecord : Record where
  rootId := some "sales"
  mergeMode := some " Intersection "
  outputSchema := some [⟨"shipped", .date⟩, ⟨"number", .float⟩]
  rawNames := some ["day", "order"]
  productionPaths := some ["date->date", "int->double"]
  individualSpecs := some [⟨"east", ["order", "note"]⟩, ⟨"west", ["day", "order"]⟩]

theorem upgrade_days :
    (daysRecord.watchLegacy .guid).run = some (daysRecord.decode .guid) ∧
      ∃ c p, daysRecord.decode .guid = .ok c ∧ daysRecord.Says p ∧ p.names.Nodup ∧
        daysRecord.UpgradedTo .guid p c := by
  obtain ⟨hruns, hupgrade⟩ := upgrade daysRecord .guid rfl
  obtain ⟨c, hc⟩ : ∃ c, daysRecord.decode .guid = .ok c := ⟨_, rfl⟩
  obtain ⟨p, hsays, hupgraded⟩ := hupgrade c hc rfl rfl
  have hnames : p.names = ["day", "order"] := hsays.names_eq
  have hd : p.names.Nodup := hnames ▸ by decide
  exact ⟨hruns, c, p, hc, hsays, hd, hupgraded hd⟩

/-- The output follows the items, and not the record. -/
example : (daysRecord.decode .guid).map (fun c => c.slots.map fun s => s.setting.output.name) =
    .ok ["number", "shipped"] := by
  decide +kernel

end Record

end OneTable
