import OneTable.Proofs.Config.Acceptance
import OneTable.Proofs.Record.Items

/-!
# Which records are accepted

Nobody checks a record of the current version as a whole. The decoder asks for its entries and for
the lengths of three of them, the items are typed by the names that have a path, the builder counts
what is left and compares it with the union of the items. What all of this comes to can be said of
the record alone (`OneTable.Record.CurrentParts.LinesUp`): the entries are there, they name a mode
and paths that there are, and its lists line up with the names of the items that are left.

One of the builder's complaints is missing from this, that a path does not start at the type of its
column. It is never made. The types of the columns come from the paths, by name, and as many names
as the union has columns cannot have all of the union's without being different from each other; so
each name has one path, and the union column of the name has the type at which that path starts.

* `OneTable.Record.source_eq_of_typedItems` – **the path at the place of a column starts at its
  type**, and why `OneTable.Record.Blameless` is true of every step of both decoders;
* `OneTable.Record.CurrentParts.LinesUp` – what a record of the current version has to be;
* `OneTable.Record.acceptance` – **these records are accepted and no others**, and the complaint is
  never made.
-/

namespace OneTable

namespace Record

/-! ### Types that come from paths -/

/-- Names that have all names of a list without repetitions, and are not more of them, have no
repetitions. -/
theorem nodup_of_subset {ns us : List String} (hd : us.Nodup) (hsub : us ⊆ ns)
    (hlen : ns.length ≤ us.length) : ns.Nodup :=
  ((List.subperm_of_subset hd hsub).perm_of_length_le hlen).nodup_iff.1 hd

/-- The names that are given types are all names. -/
theorem map_fst_zip_source {ns : List String} {ps : List ConversionPath}
    (h : ps.length = ns.length) :
    (ns.zip (ps.map ConversionPath.source)).map Prod.fst = ns :=
  List.map_fst_zip (Nat.le_of_eq (h.symm.trans (List.length_map _).symm))

/-- A name is given the type at which the path at its place starts, if names differ. -/
theorem typeIn_zip_source {ns : List String} {ps : List ConversionPath} (hd : ns.Nodup)
    (hlen : ps.length = ns.length) {i : ℕ} {n : String} {p : ConversionPath}
    (hn : ns[i]? = some n) (hp : ps[i]? = some p) :
    typeIn (ns.zip (ps.map ConversionPath.source)) n = p.source := by
  have hnames : ((ns.zip (ps.map ConversionPath.source)).map Prod.fst).Nodup :=
    (map_fst_zip_source hlen).symm ▸ hd
  have hsource : (ps.map ConversionPath.source)[i]? = some p.source := by
    rw [List.getElem?_map, hp, Option.map_some]
  have hmem : (n, p.source) ∈ ns.zip (ps.map ConversionPath.source) :=
    List.mem_of_getElem? (List.getElem?_zip_eq_some.2 ⟨hn, hsource⟩)
  rw [typeIn, (last?_eq_some_iff hnames).2 hmem, Option.getD_some]

section Sources

variable {names : List String} {paths : List ConversionPath} {rs : List RecordItem} {is : Items}
  {raw : RawSpec}
  (h : typedItems (names.zip (paths.map ConversionPath.source)) Items.empty rs = .ok is)
  (hraw : RawSpec.ofItems? is = some raw) (hnames : names.length = raw.union.length)
  (hpaths : paths.length = raw.union.length)
include h hraw hnames

/-- As many names as the union has columns differ if the items were typed by them. -/
theorem nodup_names_of_typedItems : names.Nodup := by
  refine nodup_of_subset raw.distinct (fun n hn => ?_) (Nat.le_of_eq ?_)
  · obtain ⟨u, hu, rfl⟩ := List.mem_map.1 hn
    obtain ⟨e, he, hname⟩ := List.mem_map.1 (mem_of_mem_union h hraw hu)
    exact hname ▸ (List.of_mem_zip he).1
  · rw [List.length_map, hnames]

include hpaths

/-- **The path at the place of a column starts at its type** where the name is the column's. -/
theorem source_eq_of_typedItems {i : ℕ} {u : Column} {p : ConversionPath}
    (hu : raw.union[i]? = some u) (hn : names[i]? = some u.name) (hp : paths[i]? = some p) :
    p.source = u.type := by
  rw [type_of_mem_union h hraw (List.mem_of_getElem? hu),
    typeIn_zip_source (nodup_names_of_typedItems h hraw hnames) (hpaths.trans hnames.symm) hn hp]

/-- All paths start at the types of the union if the names are the union's. -/
theorem sources_eq_of_typedItems (heq : names = raw.union.map Column.name) :
    paths.map ConversionPath.source = raw.union.map Column.type := by
  refine List.ext_getElem? fun i => ?_
  rw [List.getElem?_map, List.getElem?_map]
  rcases hu : raw.union[i]? with _ | u
  · have hi := List.getElem?_eq_none_iff.1 hu
    rw [List.getElem?_eq_none (hpaths.symm ▸ hi)]
    rfl
  · obtain ⟨hi, -⟩ := List.getElem?_eq_some_iff.1 hu
    have hp := List.getElem?_eq_getElem (hpaths.symm ▸ hi)
    have hn : names[i]? = some u.name := by rw [heq, List.getElem?_map, hu, Option.map_some]
    rw [hp, Option.map_some, Option.map_some,
      source_eq_of_typedItems h hraw hnames hpaths hu hn hp]

end Sources

/-! ### The complaint that is never made -/

/-- **A path that does not start at the type of its column** is not the reason of a failure. -/
def Blameless {α : Type} (x : Except Fault α) : Prop :=
  ∀ converter name type, x ≠ .error (.invalidConfig (.wrongSource converter name type))

namespace Blameless

variable {α β : Type}

theorem ok (a : α) : Blameless (.ok a) := fun _ _ _ h => error_ne_ok h.symm

theorem bind {x : Except Fault α} {f : α → Except Fault β} (hx : Blameless x)
    (hf : ∀ a, x = .ok a → Blameless (f a)) : Blameless (x >>= f) := by
  intro converter name type h
  rcases bind_eq_error_iff.1 h with h | ⟨a, ha, h⟩
  · exact hx converter name type h
  · exact hf a ha converter name type h

theorem map {x : Except Fault α} {f : α → β} (hx : Blameless x) : Blameless (x.map f) := by
  cases x with
  | ok a => exact ok (f a)
  | error e =>
    exact fun converter name type h => hx converter name type (congrArg _ (Except.error.inj h))

/-- A check with another complaint, in front of the rest. -/
theorem guard {p : Prop} [Decidable p] {cause : ConfigFault} {f : β → Except Fault α}
    {x : Except Fault α} (hcause : ∀ converter name type, cause ≠ .wrongSource converter name type)
    (hx : ¬p → Blameless x) :
    Blameless (if p then (throw (.invalidConfig cause) : Except Fault β) >>= f else x) := by
  intro converter name type h
  rcases throw_guard_eq_error_iff.1 h with ⟨-, hfault⟩ | ⟨hp, h⟩
  · exact hcause converter name type (Fault.invalidConfig.inj hfault)
  · exact hx hp converter name type h

/-! The steps of the decoders -/

theorem required (entry : Option α) (key : String) : Blameless (Record.required entry key) := by
  cases entry with
  | none => exact fun _ _ _ h => by cases h
  | some a => exact ok a

theorem modeOf (name : String) : Blameless (Record.modeOf name) := by
  intro converter n type h
  obtain ⟨word, -, hfault⟩ := mapError_eq_error_iff.1 h
  cases hfault

theorem legacyMode (r : Record) : Blameless r.legacyMode := by
  rw [Record.legacyMode]
  split
  · exact modeOf _
  · exact ok _
  · exact ok _

theorem resolvePaths (cs : List String) : Blameless (Record.resolvePaths cs) := by
  induction cs with
  | nil => exact ok []
  | cons c cs ih =>
    rw [Record.resolvePaths]
    split
    · exact fun _ _ _ h => by cases h
    · exact ih.map

theorem typedColumns (entries : List (String × ColumnType)) (item : String) (ns : List String) :
    Blameless (Record.typedColumns entries item ns) := by
  induction ns with
  | nil => exact ok []
  | cons n ns ih =>
    rw [Record.typedColumns]
    split
    · exact fun _ _ _ h => by cases h
    · exact ih.map

theorem typedItems (entries : List (String × ColumnType)) (is : Items) (rs : List RecordItem) :
    Blameless (Record.typedItems entries is rs) := by
  induction rs generalizing is with
  | nil => exact ok is
  | cons r rs ih =>
    rw [Record.typedItems]
    have hcolumns := typedColumns entries r.item r.columns
    split
    · next fault hfault =>
      intro converter name type h
      exact hcolumns converter name type (hfault.trans (congrArg _ (Except.error.inj h)))
    · exact ih _

theorem legacyParts (r : Record) : Blameless r.legacyParts := by
  refine (required _ _).bind fun _ _ => (required _ _).bind fun _ _ =>
    (required _ _).bind fun _ _ => ?_
  refine guard (fun _ _ _ h => by cases h) fun _ => ?_
  exact (resolvePaths _).bind fun _ _ => ok _

theorem columns (p : LegacyParts) (fallback : ColumnType) : Blameless (p.columns fallback) := by
  rw [LegacyParts.columns]
  split
  · exact fun _ _ _ h => by cases h
  · exact ok _

/-- **The builder does not make the complaint** about a draft whose items have their types from its
paths. -/
theorem build {d : Draft} {rs : List RecordItem}
    (h : Record.typedItems (d.names.zip (d.paths.map ConversionPath.source)) Items.empty rs =
      .ok d.items) : Blameless d.build := by
  intro converter name type hbuild
  rw [Draft.build] at hbuild
  rcases hraw : RawSpec.ofItems? d.items with _ | raw <;> rw [hraw] at hbuild
  · cases hbuild
  · obtain ⟨cause, hcause, hfault⟩ := mapError_eq_error_iff.1 hbuild
    obtain rfl := Fault.invalidConfig.inj hfault
    rw [Draft.check] at hcause
    simp only [bind_eq_error_iff, Draft.checkCount_eq_error_iff, Draft.checkCount_eq_ok_iff,
      throw_guard_eq_error_iff, reduceCtorEq, and_false, false_or, exists_const] at hcause
    obtain ⟨-, hpaths, hnames, hcols | ⟨-, -, -, -, hok⟩⟩ := hcause
    · obtain ⟨i, u, n, p, hu, hn, hp, ⟨-, hc⟩ | ⟨rfl, hsource, -⟩⟩ :=
        Draft.exists_of_checkColumns_eq_error hcols
      · cases hc
      · exact hsource (source_eq_of_typedItems h hraw hnames hpaths hu hn hp)
    · exact error_ne_ok hok.symm

end Blameless

/-- **No decoder blames the source of a path.** -/
theorem blameless_decode (r : Record) (fallback : ColumnType) : Blameless (r.decode fallback) := by
  rw [decode]
  split
  · refine (Blameless.legacyParts r).bind fun p _ => (Blameless.legacyMode r).bind fun mode _ =>
      (Blameless.columns p fallback).bind fun columns _ =>
      (Blameless.typedItems _ _ _).bind fun items hitems => ?_
    have htyped : typedItems ((columns.map LegacyColumn.name).zip
        ((columns.map LegacyColumn.path).map ConversionPath.source)) Items.empty p.items =
        .ok items := by
      rwa [List.map_map, List.zip_map']
    exact Blameless.build htyped
  · split
    · refine (Blameless.required _ _).bind fun _ _ => (Blameless.required _ _).bind fun rs _ =>
        (Blameless.required _ _).bind fun _ _ => (Blameless.required _ _).bind fun _ _ =>
        (Blameless.required _ _).bind fun _ _ => (Blameless.required _ _).bind fun _ _ =>
        (Blameless.required _ _).bind fun _ _ => (Blameless.required _ _).bind fun _ _ =>
        (Blameless.modeOf _).bind fun _ _ => Blameless.guard (fun _ _ _ h => by cases h) fun _ => ?_
      exact (Blameless.resolvePaths _).bind fun _ _ =>
        (Blameless.typedItems _ _ _).bind fun _ hitems => Blameless.build hitems
    · exact fun _ _ _ h => by cases h

/-! ### Records of the current version -/

/-- The entries that a record of the current version has to have. -/
structure CurrentParts where
  rootId : String
  items : List RecordItem
  schema : List OutputColumn
  names : List String
  converters : List String
  order : List ℕ
  keep : List Bool
  modeName : String

/-- The record has these entries. -/
structure Lists (r : Record) (p : CurrentParts) : Prop where
  rootId_eq : r.rootId = some p.rootId
  items_eq : r.individualSpecs = some p.items
  schema_eq : r.outputSchema = some p.schema
  names_eq : r.rawNames = some p.names
  converters_eq : r.productionPaths = some p.converters
  order_eq : r.positionalMapping = some p.order
  keep_eq : r.keep = some p.keep
  modeName_eq : r.filterMode = some p.modeName

/-- **The entries line up** with the names of the items that are left. -/
structure CurrentParts.LinesUp (p : CurrentParts) : Prop where
  mode_known : ∃ mode, FilterMode.parse p.modeName = .ok mode
  schema_length : p.schema.length = p.names.length
  converters_length : p.converters.length = p.names.length
  converters_known : ∀ c ∈ p.converters, ∃ path, ConversionPath.resolve? c = some path
  /-- Also the columns of an item that another one replaces have names. -/
  columns_named : ∀ r ∈ p.items, ∀ n ∈ r.columns, n ∈ p.names
  items_ne_nil : p.items ≠ []
  names_eq : p.names = unionNames (standing p.items)
  keep_length : p.keep.length = p.names.length
  order_nodup : p.order.Nodup
  order_lt : ∀ i ∈ p.order, i < p.names.length

section Current

variable {r : Record} {p : CurrentParts}

/-- What is accepted has its entries, and they line up. -/
theorem exists_linesUp_of_decodeCurrent {c : Config} (hc : r.decodeCurrent = .ok c) :
    ∃ p, r.Lists p ∧ p.LinesUp := by
  obtain ⟨rootId, records, schema, names, converters, order, keep, modeName, mode, paths, items,
    h₁, h₂, h₃, h₄, h₅, h₆, h₇, h₈, hmode, ⟨hschema, hconverters⟩, hpaths, hitems, hbuild⟩ :=
    decodeCurrent_eq_ok_iff.1 hc
  obtain ⟨raw, hraw, hfits, -⟩ := Draft.build_eq_ok_iff.1 hbuild
  have hlength : paths.length = names.length := (length_of_resolvePaths hpaths).trans hconverters
  have hunion : names.length = raw.union.length := hfits.names_length
  have hknown : ∀ c ∈ converters, ∃ path, ConversionPath.resolve? c = some path := fun c hmem => by
    have hresolved := resolvePaths_eq_ok_iff.1 hpaths ▸
      List.mem_map_of_mem (f := ConversionPath.resolve?) hmem
    obtain ⟨path, -, hpath⟩ := List.mem_map.1 hresolved
    exact ⟨path, hpath.symm⟩
  refine ⟨⟨rootId, records, schema, names, converters, order, keep, modeName⟩,
    ⟨h₁, h₂, h₃, h₄, h₅, h₆, h₇, h₈⟩, ?_⟩
  exact {
    mode_known := ⟨mode, mapError_eq_ok_iff.1 hmode⟩
    schema_length := hschema
    converters_length := hconverters
    converters_known := hknown
    columns_named := map_fst_zip_source hlength ▸ (typedItems_eq_ok_iff.1 hitems).1
    items_ne_nil := fun hnil => (RawSpec.ofItems?_eq_some_iff.1 hraw).1
      ((entries_eq_nil_iff hitems).2 hnil)
    names_eq := hfits.names_eq.trans (map_name_union hitems hraw)
    keep_length := hfits.keep_length.trans hunion.symm
    order_nodup := hfits.order_nodup
    order_lt := hunion ▸ hfits.order_lt }

/-- What has its entries is accepted if they line up. -/
theorem exists_decodeCurrent_of_linesUp (hp : r.Lists p) (h : p.LinesUp) :
    ∃ c, r.decodeCurrent = .ok c := by
  obtain ⟨mode, hmode⟩ := h.mode_known
  obtain ⟨paths, hpaths⟩ : ∃ paths, resolvePaths p.converters = .ok paths :=
    ⟨_, resolvePaths_eq_ok_iff.2 (map_eq_map_some_filterMap h.converters_known)⟩
  have hlength : paths.length = p.names.length :=
    (length_of_resolvePaths hpaths).trans h.converters_length
  obtain ⟨items, hitems⟩ : ∃ items, typedItems (p.names.zip (paths.map ConversionPath.source))
      Items.empty p.items = .ok items :=
    ⟨_, typedItems_eq_ok_iff.2 ⟨(map_fst_zip_source hlength).symm ▸ h.columns_named, rfl⟩⟩
  obtain ⟨raw, hraw⟩ := Option.ne_none_iff_exists'.1 (mt RawSpec.ofItems?_eq_none_iff.1
    (mt (entries_eq_nil_iff hitems).1 h.items_ne_nil))
  have hnames : p.names = raw.union.map Column.name :=
    h.names_eq.trans (map_name_union hitems hraw).symm
  have hunion : p.names.length = raw.union.length := by rw [hnames, List.length_map]
  have hfits : (currentDraft r p.rootId items p.schema p.names paths p.order p.keep mode).Fits
      raw := {
    schema_length := h.schema_length.trans hunion
    names_eq := hnames
    sources_eq := sources_eq_of_typedItems hitems hraw hunion (hlength.trans hunion) hnames
    keep_length := h.keep_length.trans hunion
    order_lt := hunion ▸ h.order_lt
    order_nodup := h.order_nodup }
  exact ⟨_, decodeCurrent_eq_ok_iff.2 ⟨_, _, _, _, _, _, _, _, mode, paths, items, hp.rootId_eq,
    hp.items_eq, hp.schema_eq, hp.names_eq, hp.converters_eq, hp.order_eq, hp.keep_eq,
    hp.modeName_eq, mapError_eq_ok_iff.2 hmode, ⟨h.schema_length, h.converters_length⟩, hpaths,
    hitems, Draft.build_eq_ok_iff.2 ⟨raw, hraw, hfits, rfl⟩⟩⟩

end Current

/-- **A record of the current version is accepted** exactly if its entries are there and line up
with the names of its items; and no record, of this version or another, is turned down because a
path does not start at the type of its column. -/
theorem acceptance (r : Record) (fallback : ColumnType) :
    (r.version = some currentVersion →
      ((∃ c, r.decode fallback = .ok c) ↔ ∃ p, r.Lists p ∧ p.LinesUp)) ∧
    ∀ converter name type,
      r.decode fallback ≠ .error (.invalidConfig (.wrongSource converter name type)) := by
  refine ⟨fun hversion => ?_, blameless_decode r fallback⟩
  rw [decode_eq_decodeCurrent hversion]
  constructor
  · rintro ⟨c, hc⟩
    exact exists_linesUp_of_decodeCurrent hc
  · rintro ⟨p, hp, h⟩
    exact exists_decodeCurrent_of_linesUp hp h

/-- The entries of a record of two regions, one of which is listed twice. What was listed first
would put the day in front of the order number. -/
def regionParts : CurrentParts where
  rootId := "sales"
  items := [⟨"east", ["day"]⟩, ⟨"west", ["order"]⟩, ⟨"east", ["order", "day"]⟩]
  schema := [⟨"number", .float⟩, ⟨"day", .date⟩]
  names := ["order", "day"]
  converters := ["int->double", "date->date"]
  order := [1]
  keep := [true, false]
  modeName := " Union"

/-- A record of these entries. -/
def regionRecord : Record where
  version := some currentVersion
  rootId := some regionParts.rootId
  individualSpecs := some regionParts.items
  outputSchema := some regionParts.schema
  rawNames := some regionParts.names
  productionPaths := some regionParts.converters
  positionalMapping := some regionParts.order
  keep := some regionParts.keep
  filterMode := some regionParts.modeName

theorem acceptance_regions : regionParts.LinesUp ∧ (∃ c, regionRecord.decode .string = .ok c) ∧
    ∀ converter name type,
      regionRecord.decode .string ≠ .error (.invalidConfig (.wrongSource converter name type)) := by
  have hlists : regionRecord.Lists regionParts := ⟨rfl, rfl, rfl, rfl, rfl, rfl, rfl, rfl⟩
  have hconverters : ∀ c ∈ regionParts.converters, (ConversionPath.resolve? c).isSome := by
    decide +kernel
  have hlines : regionParts.LinesUp := {
    mode_known := ⟨.union, by decide +kernel⟩
    schema_length := rfl
    converters_length := rfl
    converters_known := fun c hc => Option.isSome_iff_exists.1 (hconverters c hc)
    columns_named := by decide
    items_ne_nil := by decide
    names_eq := by decide +kernel
    keep_length := rfl
    order_nodup := by decide
    order_lt := by decide }
  obtain ⟨haccepted, hblameless⟩ := acceptance regionRecord .string
  exact ⟨hlines, (haccepted rfl).2 ⟨regionParts, hlists, hlines⟩, hblameless⟩

/-- A name that stands twice takes the place of another. -/
example : { regionRecord with rawNames := some ["order", "order"] }.decode .string =
    .error (.invalidConfig (.pathlessColumn "day" "east")) := by
  decide +kernel

end Record

end OneTable
