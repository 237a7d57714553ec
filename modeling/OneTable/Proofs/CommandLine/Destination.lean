import OneTable.Proofs.CommandLine.Applied
import OneTable.Proofs.Folder

/-!
# What a failing command leaves behind

A command writes one file at most. Where this file holds a configuration, it is not touched before
the configuration is complete: whatever fails before, the folder is what it was. So it is with
`scan`, with `reconcile`, also where the new configuration takes the place of the old one, and of
course with `columns`, which writes nothing.

`read` is different. What was stored is loaded and carried over first, and a failure there leaves
the folder as it was. But then the file for the table is *emptied*, and only behind that does the
reader look for the configuration of the files, and are the names of the output compared. A scan
that fails there, items that share no column, or a name that two columns bear, leave an empty
file behind: what it held is lost, and one that was not there has come into being.

* `OneTable.CommandLine.Command.emptied?` – the place of a file that a command has emptied;
* `OneTable.CommandLine.Read.columns` – the columns of the output, on which the first line waits;
* `OneTable.CommandLine.Command.folder_of_failure` – **what a failing command leaves behind**;
* `OneTable.CommandLine.Command.not_spared_absent` – a file that was lost.
-/

namespace OneTable

/-! ### Files that are written twice -/

/-- Of two texts that are put in one place the second stays. -/
theorem Folder.put_put (f : Folder) (place : List String) (bytes bytes' : List UInt8) :
    (f.put place bytes).put place bytes' = f.put place bytes' := by
  have hfiles : ∀ files, setFile place bytes' (setFile place bytes files) =
      setFile place bytes' files := by
    intro files
    induction files with
    | nil => simp [setFile]
    | cons e files ih =>
      rw [setFile]
      by_cases he : e.1 = place
      · rw [if_pos he, setFile, if_pos rfl, setFile, if_pos he]
      · rw [if_neg he, setFile, if_neg he, setFile, if_neg he, ih]
  exact congrArg (Folder.mk · f.folders) (hfiles f.files)

/-- An item that is not there has no columns. -/
theorem CsvOptions.itemColumns_of_missing {o : CsvOptions} {folder : Folder} {item : String}
    (hdash : FilePath.isDash item = false) (h : folder.read item = .error .missing) :
    o.itemColumns folder item = .error ((openTrace item .missing).inside
      ("Inferring column types of " ++ item)) := by
  have hcheck : checkItem item = .ok () := by
    rw [checkItem, hdash]
    rfl
  have hcolumns : o.columnsOf folder item = .error (openTrace item .missing) := by
    rw [columnsOf, bytesOf, h]
  rw [itemColumns, hcheck, Except.bind, hcolumns]
  rfl

/-- A reading that has no columns writes nothing. -/
theorem Reader.readInto_of_no_columns {r : Reader} {source : Source} {root : String}
    {items : List String} {σ : Type} {sink : Sink σ} {s : σ} {fault : Fault}
    (h : (r.configFor source root items).1.bind Config.outputSchema = .error fault) :
    ∃ r', r.readInto source root items sink s = (.error fault, s, r') := by
  rcases hfor : r.configFor source root items with ⟨early | config, r'⟩
  · rw [hfor] at h
    obtain rfl := Except.error.inj h
    exact ⟨r', by rw [readInto, hfor]⟩
  · rw [hfor] at h
    have hschema : config.outputSchema = .error fault := h
    exact ⟨r', by rw [readInto_of_configFor hfor, Config.readInto, hschema]⟩

namespace CommandLine

/-! ### Readings -/

namespace Read

/-- **The place of the file that a reading empties,** once what was stored is settled. -/
def emptied? (c : Read) (folder : Folder) : Option (List String) :=
  match c.settled folder, c.file with
  | .ok _, some path => (folder.target path).toOption
  | _, _ => none

/-- The columns of the output: those of the configuration that the reader uses, if their names
differ. -/
def columns (c : Read) (folder : Folder) (s : Settled) : Except Fault (List OutputColumn) :=
  (s.reader.configFor (s.options.source (c.readFolder folder)) s.root c.input.items).1.bind
    Config.outputSchema

variable {c : Read} {folder : Folder} {s : Settled} {place : List String}

/-- A reading that empties no file leaves the folder as it was. -/
theorem folder_run_of_emptied?_eq_none (h : c.emptied? folder = none) :
    (c.run folder).folder = folder := by
  rcases hsettled : c.settled folder with failure | s
  · rw [run, hsettled]
  · rw [run_eq_outcomeOf hsettled]
    simp only [emptied?, hsettled] at h
    simp only [outcomeOf]
    rcases hfile : c.file with _ | path
    · rfl
    · rcases htarget : folder.target path with e | place
      · simp only [htarget]
      · simp only [hfile, htarget] at h
        exact absurd h (Option.some_ne_none place)

theorem emptied?_eq_some_iff : c.emptied? folder = some place ↔
    (∃ s, c.settled folder = .ok s) ∧
      ∃ path, c.file = some path ∧ folder.target path = .ok place := by
  rw [emptied?]
  rcases c.settled folder with failure | s
  · simp
  · rcases c.file with _ | path
    · simp
    · rcases htarget : folder.target path with e | found
      · simp [htarget, Except.toOption]
      · simp [htarget, Except.toOption]

/-- A reading that empties a file changes no other, and one without columns leaves it empty. -/
theorem folder_run_of_emptied? (hsettled : c.settled folder = .ok s)
    (h : c.emptied? folder = some place) :
    (∃ bytes, (c.run folder).folder = folder.put place bytes) ∧
      ∀ fault, c.columns folder s = .error fault → c.run folder =
        { folder := folder.put place [], failure := some (Failure.ofFault fault) } := by
  obtain ⟨-, path, hfile, htarget⟩ := emptied?_eq_some_iff.1 h
  have hrun := run_eq_outcomeOf hsettled
  -- the file was emptied before the table is put in it
  have hfolder : c.readFolder folder = folder.put place [] := by
    simp only [readFolder, hfile, htarget]
  simp only [outcomeOf, hfile, htarget, hfolder, Folder.put_put] at hrun
  constructor
  · exact ⟨_, congrArg Outcome.folder hrun⟩
  · intro fault hcolumns
    rw [columns, hfolder] at hcolumns
    obtain ⟨r', hread⟩ := Reader.readInto_of_no_columns hcolumns
    rw [hrun, hread]
    rfl

end Read

/-! ### All commands -/

/-- A configuration that is not saved leaves the folder as it was. -/
theorem folder_saved_of_failure {result : Except Failure Config} {folder : Folder} {path : String}
    {failure : Failure} (h : (saved result folder path).failure = some failure) :
    (saved result folder path).folder = folder := by
  rcases result with early | config
  · rfl
  · simp only [saved] at h ⊢
    rcases hsave : config.save folder path with early | folder'
    · rfl
    · simp only [hsave] at h
      exact absurd h.symm (Option.some_ne_none failure)

namespace Command

/-- **The place of a file that a command has emptied** before it knows what to write. Only a
reading does that. -/
def emptied? : Command → Folder → Option (List String)
  | read c, folder => c.emptied? folder
  | scan _, _ | reconcile _, _ | columns _, _ => none

/-- **What a failing command leaves behind.** The folder is as it was, unless the command is a
reading that has emptied the file for the table. Then no other file has changed; and if the
failure is that the table has no columns, since the files have no configuration or two columns
bear one name, the file is empty. -/
theorem folder_of_failure {c : Command} {folder : Folder} {failure : Failure}
    (h : (c.run folder).failure = some failure) :
    (c.emptied? folder = none → (c.run folder).folder = folder) ∧
      ∀ place, c.emptied? folder = some place →
        (∃ bytes, (c.run folder).folder = folder.put place bytes) ∧
        ∀ r s fault, c = .read r → r.settled folder = .ok s →
          r.columns folder s = .error fault →
          failure = Failure.ofFault fault ∧ (c.run folder).folder = folder.put place [] := by
  cases c with
  | scan c => exact ⟨fun _ => folder_saved_of_failure h, fun _ hplace => absurd hplace.symm
      (Option.some_ne_none _)⟩
  | reconcile c => exact ⟨fun _ => folder_saved_of_failure h, fun _ hplace => absurd hplace.symm
      (Option.some_ne_none _)⟩
  | columns c =>
    refine ⟨fun _ => ?_, fun _ hplace => absurd hplace.symm (Option.some_ne_none _)⟩
    rw [run]
    rcases c.result folder with early | text
    · rfl
    · rfl
  | read c =>
    refine ⟨Read.folder_run_of_emptied?_eq_none, fun place hplace => ?_⟩
    obtain ⟨⟨s, hsettled⟩, -⟩ := Read.emptied?_eq_some_iff.1 hplace
    obtain ⟨hput, hempty⟩ := Read.folder_run_of_emptied? hsettled hplace
    refine ⟨hput, fun r t fault hr ht hcolumns => ?_⟩
    obtain rfl := Command.read.inj hr
    obtain rfl := Except.ok.inj (hsettled.symm.trans ht)
    have hrun : (read c).run folder =
        { folder := folder.put place [], failure := some (Failure.ofFault fault) } :=
      hempty fault hcolumns
    rw [hrun] at h ⊢
    exact ⟨(Option.some.inj h).symm, rfl⟩

/-! ### A table that was kept -/

/-- A folder with the table of an earlier reading. -/
def keptFolder : Folder :=
  ({} : Folder).withFile "out" (Utf8.encode "order\n7\n".toList)

/-- The command to read an item that is not there, in place of the earlier table. -/
def absentRead : Read where
  input := { items := ["absent"] }
  config := none
  root := none
  mode := .union
  output := some "out"
  outputDelimiter := none

/-- The fault of an item that is not there. -/
def absentFault : Fault :=
  .scan "absent" (((Trace.ofText FileFault.missing.message).inside
    "Opening input file \"absent\"").inside "Inferring column types of absent")

/-- Where the item is not there, the table has no columns. -/
theorem columns_absentRead {folder : Folder}
    (h : (absentRead.readFolder folder).read "absent" = .error .missing) :
    absentRead.columns folder ⟨{}, "default", {}⟩ = .error absentFault := by
  -- what a message shows is looked up in a long table, and that is computed here only
  have hshown : Text.shown "absent" = "\"absent\"" := by decide +kernel
  have hitem := CsvOptions.itemColumns_of_missing (o := {}) (by decide) h
  rw [CsvOptions.openTrace, hshown] at hitem
  have hscan : (CsvOptions.source {} (absentRead.readFolder folder)).scanner.scan ["absent"] {} =
      (.error absentFault, Watch.step {}) := by
    rw [Scanner.scan, scanMore, if_neg Bool.false_ne_true]
    simp only [Source.scanner, CsvOptions.source, hitem]
    rfl
  have hfor : (({} : Reader).configFor (CsvOptions.source {} (absentRead.readFolder folder))
      "default" ["absent"]).1 = .error absentFault := by
    rw [Reader.configFor,
      Reader.configBy_of_not_isFor fun _ hkept => (Option.some_ne_none _ hkept.symm).elim,
      Reader.refresh, hscan]
    rfl
  exact congrArg (Except.bind · Config.outputSchema) hfor

/-- A reading of it empties the file for the table and fails. -/
theorem run_absentRead {folder : Folder} (htarget : folder.target "out" = .ok ["out"])
    (h : (folder.put ["out"] []).read "absent" = .error .missing) :
    (read absentRead).run folder =
      { folder := folder.put ["out"] [], failure := some (Failure.ofFault absentFault) } := by
  have hemptied : absentRead.emptied? folder = some ["out"] :=
    Read.emptied?_eq_some_iff.2 ⟨⟨_, rfl⟩, _, rfl, htarget⟩
  have hfolder : absentRead.readFolder folder = folder.put ["out"] [] := by
    have hfile : absentRead.file = some "out" := rfl
    simp only [Read.readFolder, hfile, htarget]
  exact (Read.folder_run_of_emptied? rfl hemptied).2 _ (columns_absentRead (hfolder ▸ h))

theorem folder_of_failure_absent :
    ((read absentRead).run keptFolder).failure = some (Failure.ofFault absentFault) ∧
    (read absentRead).emptied? keptFolder = some ["out"] ∧
    absentRead.columns keptFolder ⟨{}, "default", {}⟩ = .error absentFault ∧
    ((read absentRead).run keptFolder).folder = keptFolder.put ["out"] [] := by
  have hemptied : (read absentRead).emptied? keptFolder = some ["out"] := by decide
  have hcolumns : absentRead.columns keptFolder ⟨{}, "default", {}⟩ = .error absentFault :=
    columns_absentRead (by decide)
  have hfailure : ((read absentRead).run keptFolder).failure =
      some (Failure.ofFault absentFault) :=
    congrArg Outcome.failure (run_absentRead (by decide) (by decide))
  obtain ⟨-, hplace⟩ := folder_of_failure hfailure
  exact ⟨hfailure, hemptied, hcolumns, ((hplace _ hemptied).2 _ _ _ rfl rfl hcolumns).2⟩

/-- **A file that was lost:** a reading that fails before any row leaves it empty, and where there
was none it leaves an empty one. -/
theorem not_spared_absent :
    ((read absentRead).run keptFolder).failure = some (Failure.ofFault absentFault) ∧
    keptFolder.read "out" = .ok (Utf8.encode "order\n7\n".toList) ∧
    ((read absentRead).run keptFolder).folder.read "out" = .ok [] ∧
    ((read absentRead).run {}).failure = some (Failure.ofFault absentFault) ∧
    ({} : Folder).read "out" = .error .missing ∧
    ((read absentRead).run {}).folder.read "out" = .ok [] := by
  have hkept : (read absentRead).run keptFolder = _ :=
    run_absentRead (by decide) (by decide)
  have hnone : (read absentRead).run {} = _ :=
    run_absentRead (by decide) (by decide)
  rw [hkept, hnone]
  exact ⟨rfl, by decide, by decide, rfl, by decide, by decide⟩

end Command

end CommandLine

end OneTable
