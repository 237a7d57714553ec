import OneTable.Proofs.CommandLine.Applied
import OneTable.Proofs.Config.Idempotence
import OneTable.Proofs.Config.Reloading
import OneTable.Proofs.Folder
import OneTable.Proofs.Reader.Header
import OneTable.Proofs.Record.FixedPoint

/-!
# Configurations between two commands

One command saves a configuration, and another is handed its file. In between the configuration
is a document, and the document says less than the configuration did: the types of single items
are not in it. Beside it lie the files with the tables, and the second command looks at them
again. So what the second command does with the configuration hangs on three things.

The first is that a document says what was written. What is written for a record is read by
somebody else's parser, and that it reads the record is *assumed*, of the one record that was
saved (`OneTable.Record.ReadsBack`). Then what is loaded is the configuration as it was, with its
types settled (`OneTable.Config.load_of_saved`).

The second is that the files are the same. A command puts bytes in one place at most, and as long
as no file of interest is there, all of them are kept (`OneTable.CommandLine.Command.Spares`); and
a scan depends on nothing but the bytes of its items
(`OneTable.CommandLine.InputOptions.scanned_of_keeps`).

The third is what comes out of a configuration. Rows come from its items and go into its slots,
under a line of names, and nothing else that is in it leaves a trace in the table
(`OneTable.CommandLine.Read.applying_congr`).
-/

namespace OneTable

/-! ### Documents -/

/-- **A record is read back** from the document that is written for it. -/
def Record.ReadsBack (r : Record) : Prop :=
  ofBytes (Utf8.encode r.text.toList) = .ok r

/-- The characters of the document need not be put into a string first. -/
theorem Record.readsBack_iff {r : Record} :
    r.ReadsBack ↔ ofBytes (Utf8.encode (Yaml.Tree.entryLines 0 false r.entries)) = .ok r := by
  rw [ReadsBack, text, Yaml.Tree.document, String.toList_ofList]

namespace Config

variable {c : Config} {folder folder' : Folder} {path : String} {fallback : ColumnType}

/-- **What is loaded** is what the record in a file that can be read is decoded to. -/
theorem load_eq_ok_iff : load folder path fallback = .ok c ↔
    ∃ bytes r, folder.read path = .ok bytes ∧ Record.ofBytes bytes = .ok r ∧
      r.decode fallback = .ok c := by
  have hrecord : ∀ r, recordIn folder path = .ok r ↔
      ∃ bytes, folder.read path = .ok bytes ∧ Record.ofBytes bytes = .ok r := by
    intro r
    rw [recordIn]
    split
    · next bytes hbytes => simp [hbytes, mapError_eq_ok_iff]
    · next hbytes => simp [hbytes, Except.mapError]
    · next e hne hbytes => simp [hbytes]
  rw [load]
  constructor
  · intro h
    split at h
    · exact absurd h error_ne_ok
    · next r hr =>
      obtain ⟨bytes, hbytes, hr⟩ := (hrecord r).1 hr
      exact ⟨bytes, r, hbytes, hr, mapError_eq_ok_iff.1 h⟩
  · rintro ⟨bytes, r, hbytes, hr, hdecode⟩
    rw [(hrecord r).2 ⟨bytes, hbytes, hr⟩]
    exact mapError_eq_ok_iff.2 hdecode

/-- **What was saved is loaded with its types settled.** -/
theorem load_of_saved (h : c.Aligned) (hoff : c.Offered) (hback : (Record.ofConfig c).ReadsBack)
    (hread : folder.read path = .ok (Utf8.encode c.document.toList)) :
    load folder path fallback = .ok c.settled :=
  load_eq_ok_iff.2 ⟨_, Record.ofConfig c, hread, hback, Record.decode_ofConfig h hoff fallback⟩

/-- **A configuration that was saved and loaded** can be carried over to its own items. -/
theorem Aligned.reconcile_settled_items (h : c.Aligned)
    (hshared : Model.lacksShared c.mode c.raw = false) :
    c.settled.reconcile c.items = .ok ((Model.ofConfig c).rendering c.rootId c.items) :=
  (reconcile_settled h c.items).trans (h.reconcile_items hshared)

/-- What was loaded from a file that is kept is loaded from it still. -/
theorem load_of_keeps {paths : List String} (h : folder.Keeps folder' paths) (hpath : path ∈ paths)
    (hload : load folder path fallback = .ok c) : load folder' path fallback = .ok c := by
  obtain ⟨bytes, r, hbytes, hr, hdecode⟩ := load_eq_ok_iff.1 hload
  exact load_eq_ok_iff.2 ⟨bytes, r, h path hpath bytes hbytes, hr, hdecode⟩

end Config

/-! ### Items that are scanned again -/

/-- The columns of an item depend on its bytes only. -/
theorem CsvOptions.itemColumns_of_keeps {o : CsvOptions} {folder folder' : Folder} {item : String}
    {items : List String} {spec : TableSpec} (h : folder.Keeps folder' items) (hitem : item ∈ items)
    (hspec : o.itemColumns folder item = .ok spec) : o.itemColumns folder' item = .ok spec := by
  obtain ⟨_, -, hcolumns⟩ := bind_eq_ok_iff.1 (mapError_eq_ok_iff.1 hspec)
  rw [columnsOf] at hcolumns
  split at hcolumns
  · exact absurd hcolumns error_ne_ok
  · next bytes hbytes =>
    have hread := bytesOf_eq_ok_iff.1 hbytes
    have hread' := h item hitem bytes hread
    rw [← hspec, itemColumns, itemColumns, columnsOf, columnsOf, bytesOf, bytesOf, hread, hread']

namespace CommandLine

/-- **A scan finds the same again** as long as the files are kept. -/
theorem InputOptions.scanned_of_keeps {o : InputOptions} {options : CsvOptions}
    {folder folder' : Folder} {found : Items} (h : folder.Keeps folder' o.items)
    (hfound : o.scanned options folder = .ok found) : o.scanned options folder' = .ok found := by
  have hscan := mapError_eq_ok_iff.1 hfound
  have hcolumns : ∀ item ∈ o.items, (options.source folder').columns item =
      (options.source folder).columns item := by
    intro item hitem
    obtain ⟨e, he, rfl⟩ := List.mem_map.1 ((mem_names_scanItems hscan).2 hitem)
    have hspec : options.itemColumns folder e.1 = .ok e.2 := columns_of_mem_scanItems hscan he
    exact (CsvOptions.itemColumns_of_keeps h hitem hspec).trans hspec.symm
  rw [scanned, scanItems_congr hcolumns]
  exact hfound

/-! ### Files that are spared -/

/-- **A command spares files:** none of their paths leads to the place that it writes to. -/
def Command.Spares (c : Command) (folder : Folder) (paths : List String) : Prop :=
  ∀ target place, c.target? = some target → folder.target target = .ok place →
    ∀ path ∈ paths, folder.locate path ≠ .ok place

/-- The files that a reading spares are kept when its own file is emptied. -/
theorem Read.keeps_readFolder {c : Read} {folder : Folder} {paths : List String}
    (h : (Command.read c).Spares folder paths) : folder.Keeps (c.readFolder folder) paths := by
  rw [readFolder]
  rcases hfile : c.file with _ | target
  · exact .refl folder paths
  · rcases hplace : folder.target target with e | place
    · simp only [hplace]
      exact .refl folder paths
    · simp only [hplace]
      exact Folder.keeps_put (h target place hfile hplace)

section Saved

variable {c : Command} {folder later : Folder} {paths : List String} {target : String}
  {result : Except Failure Config}

/-- A configuration that was saved lies in its file as a document. -/
theorem saved_of_success (h : (saved result folder target).failure = none) :
    ∃ config place, result = .ok config ∧ folder.target target = .ok place ∧
      (saved result folder target).folder =
        folder.put place (Utf8.encode config.document.toList) := by
  rcases result with failure | config
  · exact absurd h (Option.some_ne_none failure)
  · rcases hplace : folder.target target with e | place
    · simp [saved, Config.save, Folder.write, hplace, Except.map, Except.mapError] at h
    · refine ⟨config, place, rfl, rfl, ?_⟩
      simp [saved, Config.save, Folder.write, hplace, Except.map, Except.mapError]

/-- **What is found later,** after a command that saved a configuration and spared other files,
as long as all of them are kept: the document, and the other files as they were before. -/
theorem Command.Spares.found_later (hspares : c.Spares folder paths)
    (htarget : c.target? = some target) (hrun : c.run folder = saved result folder target)
    (hsucceeds : (c.run folder).failure = none)
    (hlater : (c.run folder).folder.Keeps later (target :: paths)) :
    ∃ config, result = .ok config ∧
      later.read target = .ok (Utf8.encode config.document.toList) ∧ folder.Keeps later paths := by
  rw [hrun] at hsucceeds hlater
  obtain ⟨config, place, hresult, hplace, hafter⟩ := saved_of_success hsucceeds
  rw [hafter] at hlater
  refine ⟨config, hresult, ?_, ?_⟩
  · exact hlater target List.mem_cons_self _ (Folder.read_put hplace)
  · exact (Folder.keeps_put (hspares target place htarget hplace)).trans
      (hlater.subset (List.subset_cons_self _ _))

end Saved

/-! ### Tables of configurations -/

namespace Read

variable {c : Read} {folder : Folder} {options : CsvOptions} {config config' : Config}

/-- **The table depends on the columns and the rows only.** -/
theorem applying_congr (hschema : config'.outputSchema = config.outputSchema)
    (hstream : ∀ source, config'.stream source = config.stream source) :
    c.applying options config' folder = c.applying options config folder := by
  simp only [applying, Config.readInto, hschema, hstream]

/-- A configuration that is settled gives the same table. -/
theorem applying_settled :
    c.applying options config.settled folder = c.applying options config folder :=
  applying_congr rfl Config.stream_settled

end Read

end CommandLine

end OneTable
