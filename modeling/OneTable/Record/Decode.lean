import OneTable.Config.Draft
import OneTable.Record.Basic

/-!
# Decoding records

A record of the current version lists the settings of every union column, and decoding
it gives the configuration it was made from, up to the types of the single items. A
legacy record lists the settings of the output columns only; the columns that it does
not list are read as a fallback type and stay out of the output.

* `OneTable.Record.decodeCurrent`, `OneTable.Record.decodeLegacy` – one version each;
* `OneTable.Record.decode` – the version decides;
* `OneTable.Record.warnings` – what a user is told about a legacy record.
-/

namespace OneTable.Record

/-! ### Shared steps -/

/-- An entry that has to be there. -/
def required {α : Type} (entry : Option α) (key : String) : Except Fault α :=
  match entry with
  | some a => .ok a
  | none => .error (.invalidConfig (.missing key))

/-- The paths of converters; the first unknown one fails. -/
def resolvePaths : List String → Except Fault (List ConversionPath)
  | [] => .ok []
  | c :: cs =>
    match ConversionPath.resolve? c with
    | none => .error (.unknownPath c)
    | some p => (resolvePaths cs).map (p :: ·)

/-- The last entry of a name, in a list of pairs. -/
def last? {α : Type} (entries : List (String × α)) (name : String) : Option α :=
  (entries.reverse.find? fun e => e.1 = name).map Prod.snd

/-- The columns of an item, of the types that the names have. -/
def typedColumns (types : List (String × ColumnType)) (item : String) :
    List String → Except Fault (List Column)
  | [] => .ok []
  | n :: ns =>
    match last? types n with
    | none => .error (.invalidConfig (.pathlessColumn n item))
    | some t => (typedColumns types item ns).map (Column.ofType n t :: ·)

/-- The items of a record, inserted one after the other. -/
def typedItems (types : List (String × ColumnType)) (is : Items) :
    List RecordItem → Except Fault Items
  | [] => .ok is
  | r :: rs =>
    match typedColumns types r.item r.columns with
    | .error e => .error e
    | .ok columns => typedItems types (is.insert r.item ⟨columns⟩) rs

/-- The filter mode of a name. -/
def modeOf (name : String) : Except Fault FilterMode :=
  (FilterMode.parse name).mapError fun word => .invalidConfig (.unknownFilterMode word)

/-! ### The current version -/

/-- **Decodes a record of the current version.** -/
def decodeCurrent (r : Record) : Except Fault Config := do
  let rootId ← required r.rootId "root_id"
  let items ← required r.individualSpecs "individual_specs"
  let schema ← required r.outputSchema "output_schema"
  let names ← required r.rawNames "original_names"
  let converters ← required r.productionPaths "production_paths"
  let order ← required r.positionalMapping "positional_mapping"
  let keep ← required r.keep "keep"
  let modeName ← required r.filterMode "filter_mode"
  let mode ← modeOf modeName
  if schema.length ≠ names.length ∨ converters.length ≠ names.length then
    throw (.invalidConfig (.unequalLengths schema.length names.length converters.length))
  let paths ← resolvePaths converters
  let items ← typedItems (names.zip (paths.map ConversionPath.source)) Items.empty items
  Draft.build {
    rootId := rootId
    items := items
    schema := schema
    paths := paths
    names := names
    order := some order
    keep := some keep
    mode := mode
    keepUnknown := r.keepUnknownColumns.getD true
    anchor := r.unknownColumnPosition }

/-! ### Legacy records -/

/-- What a legacy record has to say. -/
structure LegacyParts where
  rootId : String
  items : List RecordItem
  schema : List OutputColumn
  names : List String
  paths : List ConversionPath

/-- The parts of a legacy record. Without raw names the output names stand for
them. -/
def legacyParts (r : Record) : Except Fault LegacyParts := do
  let rootId ← required r.rootId "root_id"
  let items ← required r.individualSpecs "individual_specs"
  let schema ← required r.outputSchema "output_schema"
  let converters := r.productionPaths.getD []
  let names := r.rawNames.getD (schema.map OutputColumn.name)
  if schema.length ≠ names.length ∨ converters.length ≠ schema.length then
    throw (.invalidConfig (.unequalLengths schema.length names.length converters.length))
  let paths ← resolvePaths converters
  return ⟨rootId, items, schema, names, paths⟩

/-- The filter mode of a merge mode: every word but `intersection` means the union. -/
def modeOfMerge (merge : String) : FilterMode :=
  FilterMode.ofFlag (Text.sameIgnoringCase (Text.trimmed merge) "intersection")

/-- The filter mode of a legacy record, which may call it a merge mode. -/
def legacyMode (r : Record) : Except Fault FilterMode :=
  match r.filterMode, r.mergeMode with
  | some name, _ => modeOf name
  | none, some merge => .ok (modeOfMerge merge)
  | none, none => .ok .union

/-- The names of the columns of all items, where they are first met. -/
def unionNames (items : List RecordItem) : List String :=
  (items.flatMap RecordItem.columns).eraseDups

/-- The settings that a legacy record lists, by raw name. -/
def LegacyParts.listed (p : LegacyParts) : List (String × OutputColumn × ConversionPath) :=
  p.names.zip (p.schema.zip p.paths)

/-- A column of a legacy record, as it will be drafted. -/
structure LegacyColumn where
  name : String
  output : OutputColumn
  path : ConversionPath
  listed : Bool

/-- The column of a name: as it is listed, or of the fallback type. -/
def LegacyParts.column (p : LegacyParts) (fallback : ColumnType) (name : String) :
    LegacyColumn :=
  match last? p.listed name with
  | some (output, path) => ⟨name, output, path, true⟩
  | none =>
    let path := ConversionPath.standard fallback
    ⟨name, ⟨name, path.destination⟩, path, false⟩

/-- **Every union column of a legacy record.** A listed name that no item has fails. -/
def LegacyParts.columns (p : LegacyParts) (fallback : ColumnType) :
    Except Fault (List LegacyColumn) :=
  let union := unionNames p.items
  match p.names.find? (· ∉ union) with
  | some stray => .error (.invalidConfig (.strayColumn stray))
  | none => .ok (union.map (p.column fallback))

/-- **Decodes a legacy record.** -/
def decodeLegacy (r : Record) (fallback : ColumnType) : Except Fault Config := do
  let p ← legacyParts r
  let mode ← legacyMode r
  let columns ← p.columns fallback
  let types := columns.map fun c => (c.name, c.path.source)
  let items ← typedItems types Items.empty p.items
  Draft.build {
    rootId := p.rootId
    items := items
    schema := columns.map LegacyColumn.output
    paths := columns.map LegacyColumn.path
    names := columns.map LegacyColumn.name
    order := r.positionalMapping
    keep := some (r.keep.getD (columns.map LegacyColumn.listed))
    mode := mode
    keepUnknown := r.keepUnknownColumns.getD true
    anchor := r.unknownColumnPosition }

/-! ### All versions -/

/-- **Decodes a record;** a record without a version is a legacy one. -/
def decode (r : Record) (fallback : ColumnType) : Except Fault Config :=
  let version := r.version.getD legacyVersion
  if version = legacyVersion then r.decodeLegacy fallback
  else if version = currentVersion then r.decodeCurrent
  else .error (.invalidConfig (.unsupportedVersion version))

/-! ### Warnings -/

/-- What a user is told about a legacy record. -/
inductive Warning
  | noRawNames (rootId : String)
  | mergeMode (rootId merge : String)
  | missingColumns (rootId : String) (count : Nat) (fallback : ColumnType)
  | noKeep (rootId : String)

/-- The wording of a warning. -/
def Warning.message : Warning → String
  | noRawNames rootId =>
    s!"Legacy config for '{rootId}' has no original names; using output names"
  | mergeMode rootId merge =>
    s!"Legacy config for '{rootId}' uses merge mode '{merge}'; reading it as " ++
      (modeOfMerge merge).name
  | missingColumns rootId count fallback =>
    s!"Legacy config for '{rootId}' lacks {count} union column(s); reading them as " ++
      fallback.name ++ " and dropping them from the output"
  | noKeep rootId =>
    s!"Legacy config for '{rootId}' has no keep flags; deriving them from the output schema"

/-- The warning about missing raw names, which comes before anything is checked. -/
def nameWarnings (r : Record) : List Warning :=
  match r.rootId, r.individualSpecs, r.outputSchema, r.rawNames with
  | some rootId, some _, some _, none => [.noRawNames rootId]
  | _, _, _, _ => []

/-- The warning about a merge mode. -/
def modeWarnings (r : Record) (p : LegacyParts) : List Warning :=
  match r.filterMode, r.mergeMode with
  | none, some merge => [.mergeMode p.rootId merge]
  | _, _ => []

/-- The warnings about columns and keep flags. -/
def columnWarnings (r : Record) (p : LegacyParts) (fallback : ColumnType)
    (columns : List LegacyColumn) : List Warning :=
  let missing := (columns.filter fun c => !c.listed).length
  (if missing = 0 then [] else [.missingColumns p.rootId missing fallback]) ++
    (if r.keep = none then [.noKeep p.rootId] else [])

/-- **What a user is told about a record,** as far as its decoding comes. -/
def warnings (r : Record) (fallback : ColumnType) : List Warning :=
  if r.version.getD legacyVersion = legacyVersion then
    r.nameWarnings ++
      match legacyParts r with
      | .error _ => []
      | .ok p =>
        r.modeWarnings p ++
          match legacyMode r, p.columns fallback with
          | .ok _, .ok columns => r.columnWarnings p fallback columns
          | _, _ => []
  else []

end OneTable.Record
