import OneTable.Proofs.Record.Acceptance
import OneTable.Proofs.Record.Upgrade

/-!
# Columns that a record lists more than once

A record lists columns one after the other, each with a raw name, an output column and a
converter, and a configuration has one setting for each raw name. Nothing is lost between the two
as long as the names differ. What happens if a name is listed twice depends on the version.

A record of the current version lists every column of the union, one after the other, and what it
lists is compared with the union. The names of the union differ, and so a record that repeats a name
is turned down. A legacy record lists some of the columns only, in an order of its own, and there is
nothing to compare it with: the settings are looked up by name, the last one that is listed under a
name is found, and all that are listed before it are dropped without a word. Such a record is
decoded as if it listed each name once, where it lists it first and as it lists it last
(`OneTable.Record.decode_listing_once`). So a repetition is never the reason why it fails.

* `OneTable.Record.Enumerates` – the columns that a record lists, which it does in one way only
  (`OneTable.Record.Enumerates.unique`);
* `OneTable.Record.once` – each name once, with the same found under it
  (`OneTable.Record.last?_once`);
* `OneTable.Record.KeptIn` – which of the columns that are listed a configuration has;
* `OneTable.Record.keptIn_of_decode` – **what becomes of the columns that a record lists,** for both
  versions;
* `OneTable.Record.discarded_twice` – a column that is dropped without a word.
-/

namespace OneTable

/-! ### Columns with their settings -/

namespace Config

/-- The columns of a configuration with what is set for them: raw name, output column and path. -/
def columns (c : Config) : List (String × OutputColumn × ConversionPath) :=
  c.settings.map fun s => (s.rawName, s.output, s.path)

/-- They are the entries of three lists. -/
theorem columns_eq_zip (c : Config) : c.columns = c.rawNames.zip (c.schema.zip c.paths) := by
  rw [rawNames, schema, paths, List.zip_map', List.zip_map', columns]

end Config

namespace Record

/-! ### The columns that a record lists -/

/-- The names under which a record lists its columns. A legacy record without raw names lists them
under their output names. -/
def listedNames (r : Record) : Option (List String) :=
  r.rawNames.or (if r.version.getD legacyVersion = legacyVersion
    then r.outputSchema.map (List.map OutputColumn.name) else none)

/-- **The columns that a record lists:** raw name, output column and the path that the converter
names. -/
structure Enumerates (r : Record) (es : List (String × OutputColumn × ConversionPath)) : Prop where
  names_eq : r.listedNames = some (es.map Prod.fst)
  schema_eq : r.outputSchema = some (es.map fun e => e.2.1)
  paths_eq : (r.productionPaths.getD []).map ConversionPath.resolve? = es.map fun e => some e.2.2

section Listed

variable {r : Record} {names : List String} {schema : List OutputColumn}
  {paths : List ConversionPath} {es : List (String × OutputColumn × ConversionPath)}

theorem listedNames_of_legacy (hversion : r.version.getD legacyVersion = legacyVersion)
    (hschema : r.outputSchema = some schema) :
    r.listedNames = some (r.rawNames.getD (schema.map OutputColumn.name)) := by
  rw [listedNames, if_pos hversion, hschema]
  cases r.rawNames with
  | none => rfl
  | some names => rfl

theorem listedNames_of_current (hversion : r.version = some currentVersion) :
    r.listedNames = r.rawNames := by
  rw [listedNames, hversion]
  exact Option.or_none

/-- Lists of one length are put together to the columns that a record lists. -/
theorem enumerates_zip (hnames : r.listedNames = some names)
    (hschema : r.outputSchema = some schema)
    (hpaths : (r.productionPaths.getD []).map ConversionPath.resolve? = paths.map some)
    (hs : schema.length = names.length) (hp : paths.length = names.length) :
    r.Enumerates (names.zip (schema.zip paths)) := by
  have hpair := hs.trans hp.symm
  have hlen : (schema.zip paths).length = names.length := by
    rw [List.length_zip, hs, hp, Nat.min_self]
  have hsnd : (names.zip (schema.zip paths)).map Prod.snd = schema.zip paths :=
    List.map_snd_zip (Nat.le_of_eq hlen)
  have houtputs : (names.zip (schema.zip paths)).map (fun e => e.2.1) = schema := calc
    _ = ((names.zip (schema.zip paths)).map Prod.snd).map Prod.fst := List.map_map.symm
    _ = schema := by rw [hsnd, List.map_fst_zip (Nat.le_of_eq hpair)]
  have hpath : (names.zip (schema.zip paths)).map (fun e => some e.2.2) = paths.map some := calc
    _ = (((names.zip (schema.zip paths)).map Prod.snd).map Prod.snd).map some := by
      rw [List.map_map, List.map_map]
      rfl
    _ = paths.map some := by rw [hsnd, List.map_snd_zip (Nat.le_of_eq hpair.symm)]
  exact {
    names_eq := by rw [hnames, List.map_fst_zip (Nat.le_of_eq hlen.symm)]
    schema_eq := by rw [hschema, houtputs]
    paths_eq := by rw [hpaths, hpath] }

/-- Columns are put together from their names, outputs and paths. -/
theorem zip_columns (es : List (String × OutputColumn × ConversionPath)) :
    (es.map Prod.fst).zip ((es.map fun e => e.2.1).zip (es.map fun e => e.2.2)) = es := by
  rw [List.zip_map', List.zip_map']
  exact List.map_id _

/-- A record lists its columns in one way only. -/
theorem Enumerates.unique {es' : List (String × OutputColumn × ConversionPath)}
    (h : r.Enumerates es) (h' : r.Enumerates es') : es = es' := by
  have hnames := Option.some.inj (h.names_eq.symm.trans h'.names_eq)
  have houtputs := Option.some.inj (h.schema_eq.symm.trans h'.schema_eq)
  have hpaths : es.map (fun e => e.2.2) = es'.map fun e => e.2.2 := by
    refine List.map_injective_iff.2 (fun _ _ => Option.some.inj) ?_
    rw [List.map_map, List.map_map]
    exact h.paths_eq.symm.trans h'.paths_eq
  rw [← zip_columns es, ← zip_columns es', hnames, houtputs, hpaths]

/-- The paths that a record lists are offered. -/
theorem Enumerates.offered (h : r.Enumerates es) :
    ∀ e ∈ es, e.2.2 ∈ ConversionPath.available e.2.2.source := by
  intro e he
  have hmem : some e.2.2 ∈ (r.productionPaths.getD []).map ConversionPath.resolve? := by
    rw [h.paths_eq]
    exact List.mem_map_of_mem he
  exact ConversionPath.mem_available_of_mem_map hmem

/-- The record with other columns. -/
def listing (r : Record) (es : List (String × OutputColumn × ConversionPath)) : Record :=
  { r with
    rawNames := some (es.map Prod.fst)
    outputSchema := some (es.map fun e => e.2.1)
    productionPaths := some (es.map fun e => e.2.2.converter) }

/-- A record lists the columns that it was given, if their paths are offered. -/
theorem enumerates_listing (r : Record)
    (hes : ∀ e ∈ es, e.2.2 ∈ ConversionPath.available e.2.2.source) :
    (r.listing es).Enumerates es := by
  refine ⟨rfl, rfl, ?_⟩
  have hconverters : ((r.listing es).productionPaths.getD []) =
      es.map fun e => e.2.2.converter := rfl
  rw [hconverters, List.map_map]
  exact List.map_congr_left fun e he => ConversionPath.resolve?_converter (hes e he)

end Listed

/-! ### Each name once -/

section Once

variable {α : Type} {es : List (String × α)} {n : String} {a : α}

/-- **Each name once:** where it is listed first, as it is listed last. -/
def once (es : List (String × α)) : List (String × α) :=
  (es.map Prod.fst).eraseDups.filterMap fun n => (last? es n).map (Prod.mk n)

theorem map_fst_once (es : List (String × α)) :
    (once es).map Prod.fst = (es.map Prod.fst).eraseDups := by
  refine map_key_filterMap fun n hn => ?_
  obtain ⟨a, ha⟩ := exists_last? (List.mem_eraseDups.1 hn)
  rw [ha, Option.map_some, Option.map_some]

theorem mem_once_iff : (n, a) ∈ once es ↔ last? es n = some a := by
  constructor
  · intro h
    obtain ⟨m, -, hm⟩ := List.mem_filterMap.1 h
    obtain ⟨b, hb, hpair⟩ := Option.map_eq_some_iff.1 hm
    obtain ⟨rfl, rfl⟩ := Prod.mk.inj hpair
    exact hb
  · intro h
    have hname : n ∈ (es.map Prod.fst).eraseDups :=
      List.mem_eraseDups.2 (List.mem_map_of_mem (mem_of_last? h))
    exact List.mem_filterMap.2 ⟨n, hname, by rw [h, Option.map_some]⟩

/-- **What is found under a name stays the same** when each name is listed once. -/
theorem last?_once (es : List (String × α)) (n : String) : last? (once es) n = last? es n := by
  have hd : ((once es).map Prod.fst).Nodup := (map_fst_once es).symm ▸ nodup_eraseDups _
  refine Option.ext fun a => ?_
  rw [last?_eq_some_iff hd, mem_once_iff]

/-- Everything is found under its name if nothing else is listed under it. -/
theorem forall_last?_iff : (∀ e ∈ es, last? es e.1 = some e.2) ↔
    ∀ e ∈ es, ∀ e' ∈ es, e.1 = e'.1 → e = e' := by
  constructor
  · intro h e he e' he' hname
    have hfound := h e he
    rw [hname, h e' he'] at hfound
    exact Prod.ext hname (Option.some.inj hfound).symm
  · intro h e he
    obtain ⟨a, ha⟩ := exists_last? (List.mem_map_of_mem he)
    rw [ha, h e he _ (mem_of_last? ha) rfl]

/-- The first name of a kind is the first one without repetitions. -/
theorem find?_eraseDups (q : String → Bool) (ns : List String) :
    ns.eraseDups.find? q = ns.find? q := by
  induction ns using List.reverseRecOn with
  | nil => rfl
  | append_singleton ns n ih =>
    rw [RawSpec.eraseDups_append_singleton, List.find?_append]
    by_cases h : n ∈ ns
    · rw [if_pos h, ih]
      rcases hfind : ns.find? q with _ | m
      · -- the name was passed over before
        rw [Option.none_or, List.find?_singleton, if_neg (List.find?_eq_none.1 hfind n h)]
      · rfl
    · rw [if_neg h, List.find?_append, ih]

end Once

/-! ### Legacy records -/

section Legacy

variable {r : Record} {fallback : ColumnType}
  {es : List (String × OutputColumn × ConversionPath)}

/-- The parts of a legacy record that lists columns. -/
def partsOf (rootId : String) (items : List RecordItem)
    (es : List (String × OutputColumn × ConversionPath)) : LegacyParts where
  rootId := rootId
  items := items
  schema := es.map fun e => e.2.1
  names := es.map Prod.fst
  paths := es.map fun e => e.2.2

theorem listed_partsOf (rootId : String) (items : List RecordItem)
    (es : List (String × OutputColumn × ConversionPath)) :
    (partsOf rootId items es).listed = es :=
  zip_columns es

/-- **What a legacy record says** is its root, its items and the columns that it lists. -/
theorem legacyParts_eq (hversion : r.version.getD legacyVersion = legacyVersion)
    (h : r.Enumerates es) : r.legacyParts = (do
      let rootId ← required r.rootId "root_id"
      let items ← required r.individualSpecs "individual_specs"
      return partsOf rootId items es) := by
  have hnames : r.rawNames.getD ((es.map fun e => e.2.1).map OutputColumn.name) =
      es.map Prod.fst :=
    Option.some.inj ((listedNames_of_legacy hversion h.schema_eq).symm.trans h.names_eq)
  have hlength : (r.productionPaths.getD []).length = es.length := by
    have := congrArg List.length h.paths_eq
    rwa [List.length_map, List.length_map] at this
  have hpaths : resolvePaths (r.productionPaths.getD []) = .ok (es.map fun e => e.2.2) :=
    resolvePaths_eq_ok_iff.2 (h.paths_eq.trans (by rw [List.map_map]; rfl))
  have hguard : ¬((es.map fun e => e.2.1).length ≠ (es.map Prod.fst).length ∨
      (r.productionPaths.getD []).length ≠ (es.map fun e => e.2.1).length) := by
    simp [hlength]
  -- the root and the items may be missing, but the columns are there and of one length
  rw [legacyParts, h.schema_eq]
  refine bind_congr fun rootId => bind_congr fun items => ?_
  simp only [required, bind, Except.bind]
  rw [hnames, if_neg hguard, hpaths]
  rfl

/-- Two legacy records have the same columns if they have the same items, and if the same is found
under each name. The order of the names matters for the one that is blamed. -/
theorem LegacyParts.columns_congr {p p' : LegacyParts} (hitems : p.items = p'.items)
    (hnames : ∀ q, p.names.find? q = p'.names.find? q)
    (hlast : ∀ n, last? p.listed n = last? p'.listed n) :
    p.columns fallback = p'.columns fallback := by
  have hcolumn : p.column fallback = p'.column fallback :=
    funext fun n => by rw [column, column, hlast]
  rw [columns, columns, hitems, hnames, hcolumn]

/-- **A legacy record is decoded as if it listed each name once,** where it lists it first and as it
lists it last. -/
theorem decode_listing_once (hversion : r.version.getD legacyVersion = legacyVersion)
    (h : r.Enumerates es) (fallback : ColumnType) :
    (r.listing (once es)).decode fallback = r.decode fallback := by
  have honce : (r.listing (once es)).Enumerates (once es) :=
    enumerates_listing r fun e he => h.offered e (mem_of_last? (mem_once_iff.1 he))
  have hcolumns : ∀ rootId items, (partsOf rootId items (once es)).columns fallback =
      (partsOf rootId items es).columns fallback := fun rootId items => by
    refine LegacyParts.columns_congr rfl (fun q => ?_) fun n => ?_
    · -- the first name that no item has is the same one
      have hnames : (partsOf rootId items (once es)).names = (es.map Prod.fst).eraseDups :=
        map_fst_once es
      rw [hnames, find?_eraseDups]
      rfl
    · rw [listed_partsOf, listed_partsOf, last?_once]
  rw [decode_eq_decodeLegacy (r := r.listing (once es)) hversion, decode_eq_decodeLegacy hversion,
    decodeLegacy, decodeLegacy, legacyParts_eq (r := r.listing (once es)) hversion honce,
    legacyParts_eq hversion h]
  simp only [bind_assoc, pure_bind, hcolumns]
  rfl

end Legacy

/-! ### What is left in the configuration -/

/-- **Which of the columns that are listed a configuration has:** the last one under each name, and
so all of them if no two are listed under one name. -/
structure KeptIn (es : List (String × OutputColumn × ConversionPath)) (c : Config) : Prop where
  mem_columns_iff : ∀ e ∈ es, e ∈ c.columns ↔ last? es e.1 = some e.2
  forall_mem_iff : (∀ e ∈ es, e ∈ c.columns) ↔ ∀ e ∈ es, ∀ e' ∈ es, e.1 = e'.1 → e = e'

section Kept

variable {r : Record} {fallback : ColumnType} {c : Config}
  {es : List (String × OutputColumn × ConversionPath)}

theorem keptIn_of_mem_iff (h : ∀ e ∈ es, e ∈ c.columns ↔ last? es e.1 = some e.2) :
    KeptIn es c where
  mem_columns_iff := h
  forall_mem_iff := (forall₂_congr h).trans forall_last?_iff

/-- The columns of the configuration that a draft becomes are those of the draft. -/
theorem columns_of_build {d : Draft} (h : d.build = .ok c) :
    c.columns = d.names.zip (d.schema.zip d.paths) := by
  obtain ⟨raw, -, hfits, rfl⟩ := Draft.build_eq_ok_iff.1 h
  obtain ⟨hnames, hschema, hpaths, -⟩ := hfits.map_settings
  rw [Config.columns_eq_zip, hnames, hschema, hpaths]

/-- **A record of the current version** that is accepted lists no name twice, and its columns are
those of the configuration. -/
theorem columns_of_decodeCurrent (hversion : r.version = some currentVersion)
    (hc : r.decodeCurrent = .ok c) : ∃ es, r.Enumerates es ∧ (es.map Prod.fst).Nodup ∧
      c.columns = es := by
  obtain ⟨rootId, records, schema, names, converters, order, keep, modeName, mode, paths, items,
    -, -, hschema, hnames, hconverters, -, -, -, -, ⟨hs, hp⟩, hpaths, -, hbuild⟩ :=
    decodeCurrent_eq_ok_iff.1 hc
  have hlength : paths.length = names.length := (length_of_resolvePaths hpaths).trans hp
  have hresolved : (r.productionPaths.getD []).map ConversionPath.resolve? = paths.map some := by
    rw [hconverters]
    exact resolvePaths_eq_ok_iff.1 hpaths
  have henum := enumerates_zip ((listedNames_of_current hversion).trans hnames) hschema hresolved hs
    hlength
  have hcolumns : c.columns = names.zip (schema.zip paths) := columns_of_build hbuild
  refine ⟨_, henum, ?_, hcolumns⟩
  have hfst : c.columns.map Prod.fst = c.raw.union.map Column.name := by
    rw [← (Draft.aligned_of_build hbuild).names_eq, Config.columns, List.map_map]
    rfl
  rw [← hcolumns, hfst]
  exact c.raw.distinct

variable {p : LegacyParts}

/-- What a legacy record says of its columns is what it lists. -/
theorem Says.enumerates (hversion : r.version.getD legacyVersion = legacyVersion)
    (h : r.Says p) : r.Enumerates p.listed := by
  have hnames : r.listedNames = some p.names :=
    (listedNames_of_legacy hversion h.schema_eq).trans (congrArg some h.names_eq.symm)
  exact enumerates_zip hnames h.schema_eq h.paths_eq h.names_length.symm
    (h.paths_length.trans h.names_length.symm)

/-- The configuration of a legacy record has a column for each name of an item. -/
theorem columns_of_legacyDraft {mode : FilterMode} {items : Items}
    (h : (legacyDraft r p mode ((unionNames p.items).map (p.column fallback)) items).build =
      .ok c) : c.columns = (unionNames p.items).map fun n =>
      ((p.column fallback n).name, (p.column fallback n).output, (p.column fallback n).path) := by
  rw [columns_of_build h, legacyDraft]
  simp only [List.map_map, List.zip_map']
  rfl

/-- **A legacy record** that is accepted leaves the column that it lists last under each name. -/
theorem keptIn_of_decodeLegacy (hversion : r.version.getD legacyVersion = legacyVersion)
    (hc : r.decodeLegacy fallback = .ok c) : ∃ es, r.Enumerates es ∧ KeptIn es c := by
  obtain ⟨p, mode, columns, items, hparts, -, hcols, -, hbuild⟩ := decodeLegacy_eq_ok_iff.1 hc
  obtain ⟨hall, rfl⟩ := LegacyParts.columns_eq_ok_iff.1 hcols
  have hlegacy := says_of_legacyParts hparts
  refine ⟨p.listed, hlegacy.enumerates hversion, keptIn_of_mem_iff fun e he => ?_⟩
  have hname : e.1 ∈ p.names := LegacyParts.map_fst_listed hlegacy ▸ List.mem_map_of_mem he
  obtain ⟨found, hfound⟩ := exists_last? (List.mem_map_of_mem he)
  have hcolumn : p.column fallback e.1 = ⟨e.1, found.1, found.2, true⟩ := by
    rw [LegacyParts.column, hfound]
  rw [columns_of_legacyDraft hbuild, hfound, List.mem_map]
  constructor
  · rintro ⟨n, -, heq⟩
    have hn : n = e.1 := (p.name_column fallback n).symm.trans (congrArg Prod.fst heq)
    rw [hn, hcolumn] at heq
    exact congrArg (fun e => some e.2) heq
  · intro h
    obtain rfl := Option.some.inj h
    exact ⟨e.1, hall _ hname, by rw [hcolumn]⟩

end Kept

/-- **What becomes of the columns that a record lists.** A configuration has the column that is
listed last under each name, and it has all of them exactly if no two that differ are listed under
one name. In the current version there is always just one: what is accepted repeats no name, and
what repeats a name is turned down. A legacy record may repeat names; it is decoded as if it did
not, and what it lists earlier under a name is gone. -/
theorem keptIn_of_decode (r : Record) (fallback : ColumnType) :
    (∀ c, r.decode fallback = .ok c → ∃ es, r.Enumerates es ∧ KeptIn es c ∧
      (r.version = some currentVersion → (es.map Prod.fst).Nodup ∧ c.columns = es)) ∧
    (r.version = some currentVersion → ∀ names, r.listedNames = some names → ¬names.Nodup →
      ∃ fault, r.decode fallback = .error fault) ∧
    (r.version.getD legacyVersion = legacyVersion → ∀ es, r.Enumerates es →
      (r.listing (once es)).decode fallback = r.decode fallback) := by
  have hcurrent : ∀ c, r.version = some currentVersion → r.decode fallback = .ok c →
      ∃ es, r.Enumerates es ∧ (es.map Prod.fst).Nodup ∧ c.columns = es := fun c hversion hc =>
    columns_of_decodeCurrent hversion (decode_eq_decodeCurrent hversion fallback ▸ hc)
  refine ⟨fun c hc => ?_, fun hversion names hnames hd => ?_, fun hversion es hes =>
    decode_listing_once hversion hes fallback⟩
  · rcases decode_eq_ok_iff.1 hc with ⟨hlegacy, h⟩ | ⟨hversion, -⟩
    · obtain ⟨es, hes, hkept⟩ := keptIn_of_decodeLegacy hlegacy h
      refine ⟨es, hes, hkept, fun hversion => ?_⟩
      rw [hversion] at hlegacy
      exact absurd hlegacy (by decide)
    · obtain ⟨es, hes, hnodup, hcolumns⟩ := hcurrent c hversion hc
      refine ⟨es, hes, keptIn_of_mem_iff fun e he => ?_, fun _ => ⟨hnodup, hcolumns⟩⟩
      rw [hcolumns, last?_eq_some_iff hnodup]
  · rcases hdecode : r.decode fallback with fault | c
    · exact ⟨fault, rfl⟩
    · obtain ⟨es, hes, hnodup, -⟩ := hcurrent c hversion hdecode
      exact absurd (Option.some.inj (hnames.symm.trans hes.names_eq) ▸ hnodup) hd

/-- The lines of a document that lists two columns under the name of the order number. -/
def twiceLines : List String := [
  "root_id: sales\n",
  "output_schema:\n",
  "- \x7bname: number, type: integer\x7d\n",
  "- \x7bname: shipped, type: date\x7d\n",
  "- \x7bname: amount, type: float\x7d\n",
  "original_names: [order, day, order]\n",
  "production_paths: [integer->integer, date->date, integer->float]\n",
  "individual_specs:\n",
  "- \x7bitem: east, columns: [order, day]\x7d\n"]

/-- The document. -/
def twiceDocument : String :=
  .join twiceLines

/-- Its record. -/
def twiceRecord : Record where
  rootId := some "sales"
  outputSchema := some [⟨"number", .integer⟩, ⟨"shipped", .date⟩, ⟨"amount", .float⟩]
  rawNames := some ["order", "day", "order"]
  productionPaths := some ["integer->integer", "date->date", "integer->float"]
  individualSpecs := some [⟨"east", ["order", "day"]⟩]

/-- The columns that it lists. -/
def twiceColumns : List (String × OutputColumn × ConversionPath) :=
  [("order", ⟨"number", .integer⟩, .standard .integer),
    ("day", ⟨"shipped", .date⟩, .standard .date),
    ("order", ⟨"amount", .float⟩, .between .integer .float)]

theorem enumerates_twiceColumns : twiceRecord.Enumerates twiceColumns where
  names_eq := rfl
  schema_eq := rfl
  paths_eq := by decide +kernel

/-- The same record in the current version. -/
def twiceCurrent : Record :=
  { twiceRecord with
    version := some currentVersion
    filterMode := some "union"
    positionalMapping := some [0, 1]
    keep := some [true, true] }

theorem keptIn_of_decode_twice :
    (∃ c, twiceRecord.decode .string = .ok c ∧ KeptIn twiceColumns c) ∧
    (twiceRecord.listing (once twiceColumns)).decode .string = twiceRecord.decode .string ∧
    (∃ fault, twiceCurrent.decode .string = .error fault) ∧
    ∃ c es, regionRecord.decode .string = .ok c ∧ regionRecord.Enumerates es ∧
      (es.map Prod.fst).Nodup ∧ c.columns = es := by
  have hdecode : ∃ c, twiceRecord.decode .string = .ok c := ⟨_, rfl⟩
  have hregions : ∃ c, regionRecord.decode .string = .ok c := ⟨_, rfl⟩
  obtain ⟨c, hc⟩ := hdecode
  obtain ⟨c', hc'⟩ := hregions
  obtain ⟨hkept, -, hagain⟩ := keptIn_of_decode twiceRecord .string
  obtain ⟨es, hes, hin, -⟩ := hkept c hc
  obtain ⟨es', hes', -, hcurrent⟩ := (keptIn_of_decode regionRecord .string).1 c' hc'
  exact ⟨⟨c, hc, hes.unique enumerates_twiceColumns ▸ hin⟩, hagain rfl _ enumerates_twiceColumns,
    (keptIn_of_decode twiceCurrent .string).2.1 rfl _ rfl (by decide),
    c', es', hc', hes', hcurrent rfl⟩

/-- **A column that is dropped without a word:** the order number is read as an amount, and nothing
is left of the column that is listed first. -/
theorem discarded_twice :
    Record.ofText twiceDocument = .ok twiceRecord ∧ twiceRecord.Enumerates twiceColumns ∧
      ¬(twiceColumns.map Prod.fst).Nodup ∧
      ∃ c, Config.ofDocument twiceDocument .string = .ok c ∧
        c.columns = [("order", ⟨"amount", .float⟩, .between .integer .float),
          ("day", ⟨"shipped", .date⟩, .standard .date)] ∧
        ∃ e ∈ twiceColumns, e ∉ c.columns := by
  have hread : Record.ofText twiceDocument = .ok twiceRecord := by
    -- the document is taken for its characters, line by line, before it is read
    rewrite [ofText, twiceDocument, String.toList_join, twiceLines]
    simp only [List.flatMap_cons]
    repeat rewrite [String.toList_ofList]
    decide +kernel
  have hdecode : (twiceRecord.decode .string).map Config.columns =
      .ok [("order", ⟨"amount", .float⟩, .between .integer .float),
        ("day", ⟨"shipped", .date⟩, .standard .date)] := by
    decide +kernel
  obtain ⟨c, hc, hcolumns⟩ := map_eq_ok_iff.1 hdecode
  have hload : Config.ofDocument twiceDocument .string = .ok c := by
    rw [Config.ofDocument, hread]
    exact hc
  refine ⟨hread, enumerates_twiceColumns, by decide, c, hload, hcolumns,
    ("order", ⟨"number", .integer⟩, .standard .integer), List.mem_cons_self, ?_⟩
  rw [hcolumns]
  decide +kernel

end Record

end OneTable
