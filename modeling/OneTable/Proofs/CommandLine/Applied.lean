import OneTable.Proofs.Reader.Configured
import OneTable.CommandLine.Run

/-!
# The configuration that `read` applies

Between the configuration that is stored and the rows that are written stand two questions. The
command asks whether the stored configuration was made for the files that are named, and carries
it over to them if it was not. The reader asks again, of whatever it was handed, and makes a
fresh configuration if the answer is no.

The two agree as long as no file is named twice. The stored configuration, if it was made for the
files, is applied as it stands; else the files are scanned, and what was carried over to what was
found is made for the files, so that the reader is content with it. But a scan finds every file
once, and no configuration was made for a list that names one twice. So for such a list the
command carries the stored configuration over in vain: the reader throws the result away, and
what is written is what would have been without any configuration.

A table that is written over one of its own files is read as `OneTable.Reader.readIntoFile` has it:
the file is without rows, which is what becomes of it while what is written fits into the buffers.

* `OneTable.CommandLine.Read.applying` – what comes of a reading with a configuration that is
  given;
* `OneTable.CommandLine.Read.run_eq_applying` – a reading applies what its reader settles on;
* `OneTable.CommandLine.Read.run_eq_of_stored` – **a reading with a stored configuration**
  applies it, or what is carried over, or neither.
-/

namespace OneTable.CommandLine.Read

/-! ### Readings with a given configuration -/

/-- The delimiter of what is written. -/
def delimiter (c : Read) : UInt8 :=
  Delimiter.ofOutput c.output c.outputDelimiter

/-- The folder as it is when rows are read: a file that is written to was emptied before, and what
is written is still in the buffers. -/
def readFolder (c : Read) (folder : Folder) : Folder :=
  match c.file with
  | none => folder
  | some path =>
    match folder.target path with
    | .error _ => folder
    | .ok place => folder.put place []

/-- What comes of a reading by what was read and written. -/
def outcomeOf (c : Read) (folder : Folder) (result : Except Fault Nat) (written : WrittenFile) :
    Outcome :=
  match c.file with
  | none => { folder := folder, output := written.bytes, failure := failureOf result }
  | some path =>
    match folder.target path with
    | .error e => { folder := folder, failure := some (createFailure path e) }
    | .ok place =>
      { folder := (c.readFolder folder).put place written.bytes, failure := failureOf result }

/-- **What comes of a reading with a configuration that is given.** -/
def applying (c : Read) (options : CsvOptions) (config : Config) (folder : Folder) : Outcome :=
  let (result, written) := config.readInto (options.source (c.readFolder folder))
    (Sink.delimited c.delimiter) {}
  c.outcomeOf folder result written

variable {c : Read} {folder : Folder} {options : CsvOptions} {root : String}
  {stored config : Config} {reader reader' : Reader}

/-- Both ways of writing rows are one reading. -/
theorem run_eq_outcomeOf (hsettled : c.settled folder = .ok ⟨options, root, reader⟩) :
    c.run folder =
      let (result, written, _) := reader.readInto (options.source (c.readFolder folder)) root
        c.input.items (Sink.delimited c.delimiter) {}
      c.outcomeOf folder result written := by
  rw [run, hsettled]
  simp only [outcomeOf, readFolder]
  rcases c.file with _ | path
  · rfl
  · simp only [Reader.readIntoFile]
    rcases folder.target path with e | place
    · rfl
    · rfl

/-- **A reading applies the configuration that its reader settles on.** -/
theorem run_eq_applying (hsettled : c.settled folder = .ok ⟨options, root, reader⟩)
    (hconfig : reader.configFor (options.source (c.readFolder folder)) root c.input.items =
      (.ok config, reader')) : c.run folder = c.applying options config folder := by
  rw [run_eq_outcomeOf hsettled, Reader.readInto_of_configFor hconfig]
  rfl

/-! ### What is settled -/

theorem stored_of_load {path : String} (hpath : c.config = some path)
    (hload : Config.load folder path fallbackType = .ok stored) :
    c.stored folder = .ok (some stored) := by
  simp only [Read.stored, hpath]
  exact map_eq_ok_iff.2 ⟨stored, hload, rfl⟩

theorem settled_of_stored (hoptions : c.input.options = .ok options)
    (hstored : c.stored folder = .ok (some stored))
    (hcarried : c.carried options folder (c.rootFor (some stored)) stored = .ok config) :
    c.settled folder = .ok ⟨options, c.rootFor (some stored),
      { cached := some config, mode := c.mode }⟩ := by
  rw [settled, hoptions, hstored]
  refine bind_eq_ok_iff.2 ⟨options, rfl, bind_eq_ok_iff.2 ⟨some stored, rfl, ?_⟩⟩
  exact bind_eq_ok_iff.2 ⟨config, hcarried, rfl⟩

/-- A stored configuration that was made for the files stays as it is. -/
theorem carried_of_isFor (hfor : stored.isFor root c.input.items = true) :
    c.carried options folder root stored = .ok stored := by
  rw [carried, if_neg (by simp [hfor])]
  rfl

/-- A stored configuration of the same root that was made for others is carried over. -/
theorem carried_of_not_isFor {found : Items}
    (hfor : stored.isFor stored.rootId c.input.items = false)
    (hfound : c.input.scanned options folder = .ok found)
    (hconfig : stored.reconcile found = .ok config) :
    c.carried options folder stored.rootId stored = .ok config := by
  rw [carried, if_pos (by simp [hfor])]
  exact bind_eq_ok_iff.2 ⟨found, hfound, mapError_eq_ok_iff.2 hconfig⟩

/-! ### Stored configurations -/

section Stored

variable (hroot : c.root = none) (hstored : c.stored folder = .ok (some stored))
  (hoptions : c.input.options = .ok options)

include hroot hstored hoptions

/-- A stored configuration that was made for the files is applied. -/
theorem run_eq_of_isFor (hfor : stored.isFor stored.rootId c.input.items = true) :
    c.run folder = c.applying options stored folder := by
  have hnamed : c.rootFor (some stored) = stored.rootId := by rw [rootFor, hroot]; rfl
  refine run_eq_applying (settled_of_stored hoptions hstored (carried_of_isFor ?_))
    (Reader.configFor_of_isFor rfl ?_)
  · rwa [hnamed]
  · rwa [hnamed]

variable {found : Items} (hfor : stored.isFor stored.rootId c.input.items = false)
  (hfound : c.input.scanned options folder = .ok found)
  (hconfig : stored.reconcile found = .ok config)

include hfor hfound hconfig

/-- The reader of a configuration that was carried over. -/
theorem settled_of_not_isFor : c.settled folder =
    .ok ⟨options, stored.rootId, { cached := some config, mode := c.mode }⟩ := by
  have hnamed : c.rootFor (some stored) = stored.rootId := by rw [rootFor, hroot]; rfl
  rw [settled_of_stored hoptions hstored
    (hnamed ▸ carried_of_not_isFor hfor hfound hconfig), hnamed]

omit hroot hstored hoptions hfor in
/-- The configuration that was carried over was made for the files exactly if no file is named
twice. -/
theorem isFor_carried_iff : config.isFor stored.rootId c.input.items = true ↔
    c.input.items.Nodup := by
  obtain ⟨hrootId, rfl⟩ := Config.made_reconcile hconfig
  rw [← hrootId]
  exact isFor_scanned_iff (mapError_eq_ok_iff.1 hfound)

/-- What was carried over is applied where no file is named twice. -/
theorem run_eq_of_nodup (hd : c.input.items.Nodup) :
    c.run folder = c.applying options config folder :=
  run_eq_applying (settled_of_not_isFor hroot hstored hoptions hfor hfound hconfig)
    (Reader.configFor_of_isFor rfl ((isFor_carried_iff hfound hconfig).2 hd))

/-- What was carried over is of no use where a file is named twice. -/
theorem run_eq_of_repeated (hd : ¬c.input.items.Nodup) :
    c.run folder = { c with config := none, root := some stored.rootId }.run folder := by
  have hnone : { c with config := none, root := some stored.rootId }.settled folder =
      .ok ⟨options, stored.rootId, { mode := c.mode }⟩ :=
    bind_eq_ok_iff.2 ⟨options, hoptions, rfl⟩
  have huseless : config.isFor stored.rootId c.input.items = false :=
    Bool.eq_false_iff.2 fun h => hd ((isFor_carried_iff hfound hconfig).1 h)
  rw [run_eq_outcomeOf hnone,
    run_eq_outcomeOf (settled_of_not_isFor hroot hstored hoptions hfor hfound hconfig),
    Reader.readInto_congr (Reader.configFor_eq_of_not_isFor rfl huseless)]
  rfl

end Stored

/-- **What a reading with a stored configuration applies,** if no other root is named. A stored
configuration that was made for the files is applied as it stands. Else, with the files scanned
and the stored configuration carried over to them, the result is applied if no file is named
twice; and if one is, everything comes as it would without a stored configuration. -/
theorem run_eq_of_stored (hroot : c.root = none) (hstored : c.stored folder = .ok (some stored))
    (hoptions : c.input.options = .ok options) :
    (stored.isFor stored.rootId c.input.items = true →
      c.run folder = c.applying options stored folder) ∧
    (stored.isFor stored.rootId c.input.items = false → ∀ found config,
      c.input.scanned options folder = .ok found → stored.reconcile found = .ok config →
      (c.input.items.Nodup → c.run folder = c.applying options config folder) ∧
      (¬c.input.items.Nodup →
        c.run folder = { c with config := none, root := some stored.rootId }.run folder)) :=
  ⟨run_eq_of_isFor hroot hstored hoptions, fun hfor _ _ hfound hconfig =>
    ⟨run_eq_of_nodup hroot hstored hoptions hfor hfound hconfig,
      run_eq_of_repeated hroot hstored hoptions hfor hfound hconfig⟩⟩

/-! ### Two regions -/

/-- The orders of two regions. -/
def regionItems : Items where
  entries := [("east", ⟨[Column.ofType "order" .integer]⟩),
    ("west", ⟨[Column.ofType "order" .integer]⟩)]
  distinct := by simp

/-- A configuration that gives the orders another name. -/
def regionConfig : Config where
  rootId := "sales"
  items := regionItems
  raw :=
    { union := [Column.ofType "order" .integer]
      intersection := [Column.ofType "order" .integer]
      distinct := by simp
      shared := List.Sublist.refl _ }
  settings := [⟨"order", ⟨"number", .integer⟩, .standard .integer, true⟩]
  order := [0]
  mode := .union
  keepUnknown := true
  anchor := 1

/-- The files of the regions, and the document of the configuration. -/
def regionFolder : Folder :=
  ((({} : Folder).withFile "east" (Utf8.encode "order\n7\n".toList)).withFile "west"
    (Utf8.encode "order\n9\n".toList)).withFile "stored" (Utf8.encode (
      "root_id: sales\n" ++
      "output_schema: [\x7bname: number, type: integer\x7d]\n" ++
      "original_names: [order]\n" ++
      "production_paths: [integer->integer]\n" ++
      "individual_specs: [\x7bitem: east, columns: [order]\x7d, " ++
      "\x7bitem: west, columns: [order]\x7d]\n").toList)

/-- The command to read regions with the stored configuration. -/
def regionRead (items : List String) : Read where
  input := { items := items }
  config := some "stored"
  root := none
  mode := .union
  output := none
  outputDelimiter := none

theorem load_regionFolder : Config.load regionFolder "stored" fallbackType = .ok regionConfig := by
  -- the document is taken for its characters, line by line, before it is read
  rw [regionFolder, String.toList_append, String.toList_append, String.toList_append,
    String.toList_append, String.toList_append]
  repeat rw [String.toList_ofList]
  decide +kernel

theorem stored_regionRead (items : List String) :
    (regionRead items).stored regionFolder = .ok (some regionConfig) :=
  stored_of_load rfl load_regionFolder

/-- The orders of the east. -/
def eastItems : Items where
  entries := [("east", ⟨[Column.ofType "order" .integer]⟩)]
  distinct := by simp

/-- The east alone is read with the names of both regions. -/
theorem run_eq_of_stored_east :
    (regionRead ["east"]).stored regionFolder = .ok (some regionConfig) ∧
    regionConfig.isFor "sales" ["east"] = false ∧
    (regionRead ["east"]).input.scanned {} regionFolder = .ok eastItems ∧
    regionConfig.reconcile eastItems = .ok { regionConfig with items := eastItems } ∧
    (regionRead ["east"]).run regionFolder =
      (regionRead ["east"]).applying {} { regionConfig with items := eastItems } regionFolder := by
  have hfor : regionConfig.isFor "sales" ["east"] = false := by decide
  have hfound : (regionRead ["east"]).input.scanned {} regionFolder = .ok eastItems := by
    decide +kernel
  have hconfig : regionConfig.reconcile eastItems = .ok { regionConfig with items := eastItems } :=
    by decide +kernel
  obtain ⟨-, hcarried⟩ := run_eq_of_stored rfl (stored_regionRead ["east"]) rfl
  exact ⟨stored_regionRead _, hfor, hfound, hconfig,
    (hcarried hfor _ _ hfound hconfig).1 (by decide)⟩

/-- **A file that is named twice** loses the name that its column was given. -/
theorem run_ne_applying_repeated :
    (regionRead ["east", "west", "east"]).stored regionFolder = .ok (some regionConfig) ∧
    regionConfig.isFor "sales" ["east", "west", "east"] = false ∧
    (regionRead ["east", "west", "east"]).input.scanned {} regionFolder = .ok regionItems ∧
    regionConfig.reconcile regionItems = .ok regionConfig ∧
    ((regionRead ["east", "west", "east"]).applying {} regionConfig regionFolder).output =
      Utf8.encode "number\n7\n9\n".toList ∧
    ((regionRead ["east", "west", "east"]).run regionFolder).output =
      Utf8.encode "order\n7\n9\n".toList := by
  have hfound : (regionRead ["east", "west", "east"]).input.scanned {} regionFolder =
      .ok regionItems := by decide +kernel
  have hconfig : regionConfig.reconcile regionItems = .ok regionConfig := by decide +kernel
  refine ⟨stored_regionRead _, by decide, hfound, hconfig, by decide +kernel, ?_⟩
  rw [run_eq_of_repeated rfl (stored_regionRead _) rfl (by decide) hfound hconfig
    (by decide)]
  decide +kernel

end OneTable.CommandLine.Read
