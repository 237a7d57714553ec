import OneTable.Config.Stored
import OneTable.Proofs.Config.Load

/-!
# What decoding a record comes to

The decoders run through the entries of a record and stop at the first that is missing or
wrong. A record that decodes has therefore passed every step, and the configuration is that of
one draft: the entries of the record, with the paths that its converters name and with items
whose columns have the types those paths start at.

* `OneTable.Record.decodeCurrent_eq_ok_iff`, `OneTable.Record.decodeLegacy_eq_ok_iff` – **a
  record decodes exactly if every step does**;
* `OneTable.Record.decode_eq_ok_iff` – what decodes is of one of the two versions;
* `OneTable.Record.decode_eq_ok` – in every version the configuration comes from a draft
  whose paths are offered, and so it is aligned (`OneTable.Record.aligned_of_decode`).
-/

namespace OneTable

namespace ConversionPath

/-- **A converter names an offered path.** -/
theorem mem_available_of_resolve? {converter : String} {p : ConversionPath}
    (h : resolve? converter = some p) : p ∈ available p.source := by
  rw [resolve?] at h
  split at h
  · exact absurd h (by simp)
  · split at h
    · split at h
      · next hd =>
        obtain rfl := Option.some.inj h
        exact List.mem_map_of_mem hd
      · exact absurd h (by simp)
    · exact absurd h (by simp)

/-- What one of several converters names is an offered path. -/
theorem mem_available_of_mem_map {cs : List String} {p : ConversionPath}
    (h : some p ∈ cs.map resolve?) : p ∈ available p.source := by
  obtain ⟨c, -, hc⟩ := List.mem_map.1 h
  exact mem_available_of_resolve? hc

end ConversionPath

namespace Record

/-! ### Single steps -/

theorem required_eq_ok_iff {α : Type} {entry : Option α} {key : String} {a : α} :
    required entry key = .ok a ↔ entry = some a := by
  cases entry with
  | none => exact ⟨fun h => absurd h error_ne_ok, fun h => absurd h (by simp)⟩
  | some b =>
    exact ⟨fun h => congrArg some (Except.ok.inj h),
      fun h => congrArg Except.ok (Option.some.inj h)⟩

/-- **The paths of converters** are what the single converters name. -/
theorem resolvePaths_eq_ok_iff {cs : List String} {ps : List ConversionPath} :
    resolvePaths cs = .ok ps ↔ cs.map ConversionPath.resolve? = ps.map some := by
  induction cs generalizing ps with
  | nil =>
    rw [resolvePaths, List.map_nil, eq_comm (a := []), List.map_eq_nil_iff]
    exact ⟨fun h => (Except.ok.inj h).symm, fun h => congrArg Except.ok h.symm⟩
  | cons c cs ih =>
    rw [resolvePaths, List.map_cons]
    rcases hc : ConversionPath.resolve? c with _ | p
    · refine ⟨fun h => absurd h error_ne_ok, fun h => ?_⟩
      cases ps with
      | nil => exact absurd h (by simp)
      | cons q ps => exact absurd (List.cons.inj h).1 (by simp)
    · refine map_eq_ok_iff.trans ⟨?_, fun h => ?_⟩
      · rintro ⟨qs, hqs, rfl⟩
        rw [List.map_cons, ih.1 hqs]
      · cases ps with
        | nil => exact absurd h (by simp)
        | cons q ps =>
          obtain ⟨hq, hqs⟩ := List.cons.inj h
          exact ⟨ps, ih.2 hqs, by rw [Option.some.inj hq]⟩

/-- Every converter names one path. -/
theorem length_of_resolvePaths {cs : List String} {ps : List ConversionPath}
    (h : resolvePaths cs = .ok ps) : ps.length = cs.length := by
  rw [← List.length_map some, ← resolvePaths_eq_ok_iff.1 h, List.length_map]

theorem offered_of_resolvePaths {cs : List String} {ps : List ConversionPath}
    (h : resolvePaths cs = .ok ps) : ∀ p ∈ ps, p ∈ ConversionPath.available p.source := by
  intro p hp
  have hmem : some p ∈ cs.map ConversionPath.resolve? := by
    rw [resolvePaths_eq_ok_iff.1 h]
    exact List.mem_map_of_mem hp
  exact ConversionPath.mem_available_of_mem_map hmem

/-! ### The decoders -/

/-- The draft of a record of the current version, once its steps are taken. -/
def currentDraft (r : Record) (rootId : String) (items : Items) (schema : List OutputColumn)
    (names : List String) (paths : List ConversionPath) (order : List ℕ) (keep : List Bool)
    (mode : FilterMode) : Draft where
  rootId := rootId
  items := items
  schema := schema
  paths := paths
  names := names
  order := some order
  keep := some keep
  mode := mode
  keepUnknown := r.keepUnknownColumns.getD true
  anchor := r.unknownColumnPosition

/-- **A record of the current version decodes** exactly if every step does. -/
theorem decodeCurrent_eq_ok_iff {r : Record} {c : Config} :
    r.decodeCurrent = .ok c ↔
      ∃ rootId records schema names converters order keep modeName mode paths items,
        r.rootId = some rootId ∧ r.individualSpecs = some records ∧
        r.outputSchema = some schema ∧ r.rawNames = some names ∧
        r.productionPaths = some converters ∧ r.positionalMapping = some order ∧
        r.keep = some keep ∧ r.filterMode = some modeName ∧ modeOf modeName = .ok mode ∧
        (schema.length = names.length ∧ converters.length = names.length) ∧
        resolvePaths converters = .ok paths ∧
        typedItems (names.zip (paths.map ConversionPath.source)) Items.empty records = .ok items ∧
        (currentDraft r rootId items schema names paths order keep mode).build = .ok c := by
  rw [decodeCurrent]
  simp only [bind_eq_ok_iff, required_eq_ok_iff, throw_guard_eq_ok_iff, not_or, ne_eq, not_not]
  constructor
  · rintro ⟨rootId, h₁, records, h₂, schema, h₃, names, h₄, converters, h₅, order, h₆, keep, h₇,
      modeName, h₈, mode, h₉, hlen, paths, h₁₀, items, h₁₁, h⟩
    exact ⟨rootId, records, schema, names, converters, order, keep, modeName, mode, paths, items,
      h₁, h₂, h₃, h₄, h₅, h₆, h₇, h₈, h₉, hlen, h₁₀, h₁₁, h⟩
  · rintro ⟨rootId, records, schema, names, converters, order, keep, modeName, mode, paths, items,
      h₁, h₂, h₃, h₄, h₅, h₆, h₇, h₈, h₉, hlen, h₁₀, h₁₁, h⟩
    exact ⟨rootId, h₁, records, h₂, schema, h₃, names, h₄, converters, h₅, order, h₆, keep, h₇,
      modeName, h₈, mode, h₉, hlen, paths, h₁₀, items, h₁₁, h⟩

/-- The draft of a legacy record, once its steps are taken. -/
def legacyDraft (r : Record) (p : LegacyParts) (mode : FilterMode) (columns : List LegacyColumn)
    (items : Items) : Draft where
  rootId := p.rootId
  items := items
  schema := columns.map LegacyColumn.output
  paths := columns.map LegacyColumn.path
  names := columns.map LegacyColumn.name
  order := r.positionalMapping
  keep := some (r.keep.getD (columns.map LegacyColumn.listed))
  mode := mode
  keepUnknown := r.keepUnknownColumns.getD true
  anchor := r.unknownColumnPosition

/-- **A legacy record decodes** exactly if every step does. -/
theorem decodeLegacy_eq_ok_iff {r : Record} {fallback : ColumnType} {c : Config} :
    r.decodeLegacy fallback = .ok c ↔
      ∃ p mode columns items, legacyParts r = .ok p ∧ legacyMode r = .ok mode ∧
        p.columns fallback = .ok columns ∧
        typedItems (columns.map fun c => (c.name, c.path.source)) Items.empty p.items =
          .ok items ∧
        (legacyDraft r p mode columns items).build = .ok c := by
  rw [decodeLegacy]
  simp only [bind_eq_ok_iff]
  constructor
  · rintro ⟨p, h₁, mode, h₂, columns, h₃, items, h₄, h⟩
    exact ⟨p, mode, columns, items, h₁, h₂, h₃, h₄, h⟩
  · rintro ⟨p, mode, columns, items, h₁, h₂, h₃, h₄, h⟩
    exact ⟨p, h₁, mode, h₂, columns, h₃, items, h₄, h⟩

/-! ### The columns of a legacy record -/

/-- What is found under a name is listed under it. -/
theorem mem_of_last? {α : Type} {entries : List (String × α)} {n : String} {a : α}
    (h : last? entries n = some a) : (n, a) ∈ entries := by
  obtain ⟨⟨k, b⟩, hfind, rfl⟩ := Option.map_eq_some_iff.1 h
  obtain rfl : k = n := by simpa using List.find?_some hfind
  exact List.mem_reverse.1 (List.mem_of_find?_eq_some hfind)

/-- The paths of a legacy record are those of its converters. -/
theorem offered_of_legacyParts {r : Record} {p : LegacyParts} (h : legacyParts r = .ok p) :
    ∀ q ∈ p.paths, q ∈ ConversionPath.available q.source := by
  rw [legacyParts] at h
  simp only [bind_eq_ok_iff, throw_guard_eq_ok_iff] at h
  obtain ⟨rootId, -, items, -, schema, -, -, paths, hpaths, hp⟩ := h
  obtain rfl := Except.ok.inj hp
  exact offered_of_resolvePaths hpaths

/-- Every column of a legacy record has an offered path: a listed one, or the standard path
of the fallback type. -/
theorem offered_of_legacyColumns {p : LegacyParts} {fallback : ColumnType}
    {columns : List LegacyColumn} (hp : ∀ q ∈ p.paths, q ∈ ConversionPath.available q.source)
    (h : p.columns fallback = .ok columns) :
    ∀ q ∈ columns.map LegacyColumn.path, q ∈ ConversionPath.available q.source := by
  rw [LegacyParts.columns] at h
  split at h
  · exact absurd h error_ne_ok
  · obtain rfl := Except.ok.inj h
    intro q hq
    rw [List.map_map] at hq
    obtain ⟨name, -, rfl⟩ := List.mem_map.1 hq
    rw [Function.comp_apply, LegacyParts.column]
    rcases hlast : last? p.listed name with _ | ⟨output, path⟩
    · exact ConversionPath.standard_mem_available fallback
    · have hmem : (name, output, path) ∈ p.listed := mem_of_last? hlast
      exact hp path (List.of_mem_zip (List.of_mem_zip hmem).2).2

/-! ### Every version -/

theorem decode_eq_decodeLegacy {r : Record} (h : r.version.getD legacyVersion = legacyVersion)
    (fallback : ColumnType) : r.decode fallback = r.decodeLegacy fallback := by
  rw [decode, if_pos h]

theorem decode_eq_decodeCurrent {r : Record} (h : r.version = some currentVersion)
    (fallback : ColumnType) : r.decode fallback = r.decodeCurrent := by
  rw [decode, h]
  rfl

/-- **What decodes is of one of the two versions.** -/
theorem decode_eq_ok_iff {r : Record} {fallback : ColumnType} {c : Config} :
    r.decode fallback = .ok c ↔
      (r.version.getD legacyVersion = legacyVersion ∧ r.decodeLegacy fallback = .ok c) ∨
      (r.version = some currentVersion ∧ r.decodeCurrent = .ok c) := by
  constructor
  · intro h
    by_cases hlegacy : r.version.getD legacyVersion = legacyVersion
    · exact .inl ⟨hlegacy, decode_eq_decodeLegacy hlegacy fallback ▸ h⟩
    · rw [decode, if_neg hlegacy] at h
      by_cases hcurrent : r.version.getD legacyVersion = currentVersion
      · rw [if_pos hcurrent] at h
        rcases hversion : r.version with _ | v <;> rw [hversion] at hcurrent hlegacy
        · exact absurd rfl hlegacy
        · exact .inr ⟨congrArg some hcurrent, h⟩
      · rw [if_neg hcurrent] at h
        exact absurd h error_ne_ok
  · rintro (⟨hversion, h⟩ | ⟨hversion, h⟩)
    · exact (decode_eq_decodeLegacy hversion fallback).trans h
    · exact (decode_eq_decodeCurrent hversion fallback).trans h

/-- **A configuration that was decoded comes from a draft whose paths are offered.** -/
theorem decode_eq_ok {r : Record} {fallback : ColumnType} {c : Config}
    (h : r.decode fallback = .ok c) :
    ∃ d : Draft, d.build = .ok c ∧ ∀ p ∈ d.paths, p ∈ ConversionPath.available p.source := by
  rcases decode_eq_ok_iff.1 h with ⟨-, h⟩ | ⟨-, h⟩
  · obtain ⟨p, mode, columns, items, hp, -, hcols, -, hb⟩ := decodeLegacy_eq_ok_iff.1 h
    exact ⟨_, hb, offered_of_legacyColumns (offered_of_legacyParts hp) hcols⟩
  · obtain ⟨_, _, _, _, _, _, _, _, _, _, _, -, -, -, -, -, -, -, -, -, -, hpaths, -, hb⟩ :=
      decodeCurrent_eq_ok_iff.1 h
    exact ⟨_, hb, offered_of_resolvePaths hpaths⟩

theorem aligned_of_decode {r : Record} {fallback : ColumnType} {c : Config}
    (h : r.decode fallback = .ok c) : c.Aligned ∧ c.Offered := by
  obtain ⟨d, hb, hpaths⟩ := decode_eq_ok h
  refine ⟨Draft.aligned_of_build hb, ?_⟩
  obtain ⟨raw, -, hfit, rfl⟩ := Draft.build_eq_ok_iff.1 hb
  intro p hp
  rw [hfit.map_settings.2.2.1] at hp
  exact hpaths p hp

end Record

/-- The configuration of a document is that of its record. -/
theorem Config.ofDocument_eq_ok {text : String} {fallback : ColumnType} {c : Config}
    (h : Config.ofDocument text fallback = .ok c) : ∃ r, Record.decode r fallback = .ok c := by
  rw [ofDocument] at h
  rcases hr : Record.ofText text with e | r <;> rw [hr] at h
  · exact absurd h error_ne_ok
  · exact ⟨r, h⟩

end OneTable
