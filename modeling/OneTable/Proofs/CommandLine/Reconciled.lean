import OneTable.Proofs.CommandLine.Saved

/-!
# Reconciling before a reading, or in it

A configuration can be carried over to other files in two ways. The command `reconcile` does it on
disk and saves what comes of it; `read` does it in memory and goes on with what comes of it. Each
has its own test of whether anything is to be done, and on disk the test comes a second time, when
the saved configuration is read with. So it is to be seen that the two ways lead to one table.

They do in each of three cases. If the configuration was made for the files, it is saved as it is,
and having been loaded once it is loaded as the same again. If it was not, and no file is named
twice, what is carried over was made for the files: saved, it passes the second test, and the
types that are settled on the way are not in the table. If a file is named twice, the second test
fails, what was carried over is carried over to the same items once more – but that is in vain on
either way, since the reader then makes a fresh configuration for the same root.

* `OneTable.CommandLine.Reconcile.result_eq_ok_iff` – what `reconcile` saves;
* `OneTable.CommandLine.Reconcile.run_saved_eq_run_stored` – **both ways lead to one table**.
-/

namespace OneTable.CommandLine

/-- **What `reconcile` saves:** the stored configuration, if it was made for the files, and else
what it is carried over to. -/
theorem Reconcile.result_eq_ok_iff {c : Reconcile} {folder : Folder} {config : Config} :
    c.result folder = .ok config ↔
      ∃ stored, Config.load folder c.config fallbackType = .ok stored ∧
        ((stored.isFor stored.rootId c.input.items = true ∧ config = stored) ∨
          stored.isFor stored.rootId c.input.items = false ∧ ∃ options found,
            c.input.options = .ok options ∧ c.input.scanned options folder = .ok found ∧
              stored.reconcile found = .ok config) := by
  rw [result, bind_eq_ok_iff]
  refine exists_congr fun stored => and_congr_right fun _ => ?_
  by_cases hfor : stored.isFor stored.rootId c.input.items = true
  · simp only [hfor, if_true, true_and, Bool.true_eq_false, false_and, or_false]
    exact ⟨fun h => (Except.ok.inj h).symm, fun h => congrArg Except.ok h.symm⟩
  · rw [Bool.not_eq_true] at hfor
    simp only [hfor, Bool.false_eq_true, if_false, false_and, true_and, false_or, bind_eq_ok_iff,
      mapError_eq_ok_iff, exists_and_left]

namespace Read

variable {c : Read} {folder : Folder} {stored config : Config} {path path' : String}

/-- What is stored in a file, to a reading that is handed it. -/
theorem stored_of_path (c : Read) (hload : Config.load folder path fallbackType = .ok stored) :
    { c with config := some path }.stored folder = .ok (some stored) :=
  stored_of_load rfl hload

/-- Files that hold one configuration give one table. -/
theorem run_eq_of_same (hload : Config.load folder path fallbackType = .ok stored)
    (hload' : Config.load folder path' fallbackType = .ok stored) :
    { c with config := some path' }.run folder = { c with config := some path }.run folder := by
  have hsettled : { c with config := some path' }.settled folder =
      { c with config := some path }.settled folder := by
    rw [settled, settled, stored_of_path c hload, stored_of_path c hload']
    rfl
  rw [run, run, hsettled]
  rfl

section Carried

variable {options : CsvOptions} {found : Items}

/-- What was carried over is made for the files after it was saved exactly if no item is named
twice. -/
theorem isFor_settled_carried_iff (hfound : c.input.scanned options folder = .ok found)
    (hconfig : stored.reconcile found = .ok config) :
    config.settled.isFor config.settled.rootId c.input.items = true ↔ c.input.items.Nodup := by
  have hroots : config.settled.rootId = stored.rootId := (Config.made_reconcile hconfig).1
  rw [hroots, Config.isFor_settled]
  exact isFor_carried_iff hfound hconfig

variable (hroot : c.root = none)
  (hload : Config.load folder path fallbackType = .ok stored)
  (hload' : Config.load folder path' fallbackType = .ok config.settled)
  (hoptions : c.input.options = .ok options)
  (hfor : stored.isFor stored.rootId c.input.items = false)
  (hfound : c.input.scanned options folder = .ok found)
  (hconfig : stored.reconcile found = .ok config)
include hroot hload hload' hoptions hfor hfound hconfig

/-- **A file that holds what was carried over** gives the table that carrying over gives, if no
item is named twice. -/
theorem run_eq_of_carried (hd : c.input.items.Nodup) :
    { c with config := some path' }.run folder = { c with config := some path }.run folder := by
  have hmade := (isFor_settled_carried_iff hfound hconfig).2 hd
  have hsaved : { c with config := some path' }.run folder =
      c.applying options config.settled folder :=
    run_eq_of_isFor hroot (stored_of_path c hload') hoptions hmade
  have hmemory : { c with config := some path }.run folder = c.applying options config folder :=
    run_eq_of_nodup hroot (stored_of_path c hload) hoptions hfor hfound hconfig hd
  rw [hsaved, hmemory, applying_settled]

/-- If an item is named twice, both files give the table of a fresh configuration. -/
theorem run_eq_of_carried_in_vain (hc : stored.Aligned) (hoff : stored.Offered)
    (hd : ¬c.input.items.Nodup) :
    { c with config := some path' }.run folder = { c with config := some path }.run folder := by
  obtain ⟨hrootId, hitems⟩ := Config.made_reconcile hconfig
  obtain ⟨halign, -⟩ := Config.aligned_of_reconcile hc hoff hconfig
  have hagain := halign.reconcile_settled_items (Config.lacksShared_of_reconcile hconfig)
  rw [hitems] at hagain
  have hmade : config.settled.isFor config.settled.rootId c.input.items = false :=
    Bool.eq_false_iff.2 fun h => hd ((isFor_settled_carried_iff hfound hconfig).1 h)
  have hsaved : { c with config := some path' }.run folder =
      { c with config := none, root := some config.settled.rootId }.run folder :=
    run_eq_of_repeated hroot (stored_of_path c hload') hoptions hmade hfound hagain hd
  have hmemory : { c with config := some path }.run folder =
      { c with config := none, root := some stored.rootId }.run folder :=
    run_eq_of_repeated hroot (stored_of_path c hload) hoptions hfor hfound hconfig hd
  have hroots : config.settled.rootId = stored.rootId := hrootId
  rw [hsaved, hmemory, hroots]

end Carried

end Read

/-- **Reconciling on disk and reconciling in memory lead to one table.** Let `reconcile` end well,
and save to a file that is neither that of the stored configuration nor one of the items. Then, as
long as these files are what they were, a reading with the saved configuration ends as a reading
with the stored one does, and writes the same. -/
theorem Reconcile.run_saved_eq_run_stored {c : Reconcile} {r : Read} {folder later : Folder}
    {path : String} (houtput : c.output = some path)
    (hsucceeds : ((Command.reconcile c).run folder).failure = none)
    (hspares : (Command.reconcile c).Spares folder (c.config :: c.input.items))
    (hkept : ((Command.reconcile c).run folder).folder.Keeps later
      (path :: c.config :: c.input.items))
    (hback : ∀ config, c.result folder = .ok config → (Record.ofConfig config).ReadsBack)
    (hinput : r.input = c.input) (hroot : r.root = none) :
    { r with config := some path }.run later = { r with config := some c.config }.run later := by
  have htarget : (Command.reconcile c).target? = some path := by
    rw [Command.target?, houtput, Option.getD_some]
  have hrun : (Command.reconcile c).run folder = saved (c.result folder) folder path := by
    rw [Command.run, houtput, Option.getD_some]
  obtain ⟨config, hresult, hdocument, hfiles⟩ := hspares.found_later htarget hrun hsucceeds hkept
  obtain ⟨stored, hload, hcases⟩ := Reconcile.result_eq_ok_iff.1 hresult
  obtain ⟨-, record, -, -, hdecode⟩ := Config.load_eq_ok_iff.1 hload
  obtain ⟨hc, hoff⟩ := Record.aligned_of_decode hdecode
  have hstored : Config.load later c.config fallbackType = .ok stored :=
    Config.load_of_keeps hfiles List.mem_cons_self hload
  rcases hcases with ⟨-, rfl⟩ | ⟨hfor, options, found, hoptions, hfound, hconfig⟩
  · have hsettled : Config.load later path fallbackType = .ok config.settled :=
      Config.load_of_saved hc hoff (hback _ hresult) hdocument
    rw [Config.settled_of_decode hdecode] at hsettled
    exact Read.run_eq_of_same hstored hsettled
  · obtain ⟨hcarried, hcarriedOff⟩ := Config.aligned_of_reconcile hc hoff hconfig
    have hsettled : Config.load later path fallbackType = .ok config.settled :=
      Config.load_of_saved hcarried hcarriedOff (hback _ hresult) hdocument
    have hagain : r.input.scanned options later = .ok found := by
      rw [hinput]
      exact InputOptions.scanned_of_keeps (hfiles.subset (List.subset_cons_self _ _)) hfound
    rw [← hinput] at hoptions hfor
    by_cases hd : r.input.items.Nodup
    · exact Read.run_eq_of_carried hroot hstored hsettled hoptions hfor hagain hconfig hd
    · exact Read.run_eq_of_carried_in_vain hroot hstored hsettled hoptions hfor hagain hconfig
        hc hoff hd

/-- The command to carry the configuration of both regions over to the east. -/
def eastReconcile : Reconcile where
  config := "stored"
  input := { items := ["east"] }
  output := some "carried"

theorem Reconcile.run_saved_eq_run_stored_east :
    ((Command.reconcile eastReconcile).run Read.regionFolder).failure = none ∧
    (Command.reconcile eastReconcile).Spares Read.regionFolder ["stored", "east"] ∧
    eastReconcile.result Read.regionFolder =
      .ok { Read.regionConfig with items := Read.eastItems } ∧
    (Record.ofConfig { Read.regionConfig with items := Read.eastItems }).ReadsBack ∧
    { Read.regionRead ["east"] with config := some "carried" }.run
        ((Command.reconcile eastReconcile).run Read.regionFolder).folder =
      { Read.regionRead ["east"] with config := some "stored" }.run
        ((Command.reconcile eastReconcile).run Read.regionFolder).folder := by
  have hspares : (Command.reconcile eastReconcile).Spares Read.regionFolder ["stored", "east"] := by
    rintro _ place ⟨⟩ hplace
    obtain rfl : ["carried"] = place := Except.ok.inj (Eq.trans (by decide +kernel) hplace)
    decide +kernel
  have hresult : eastReconcile.result Read.regionFolder =
      .ok { Read.regionConfig with items := Read.eastItems } :=
    result_eq_ok_iff.2 ⟨Read.regionConfig, Read.load_regionFolder, .inr ⟨by decide +kernel, {},
      Read.eastItems, rfl, by decide +kernel, by decide +kernel⟩⟩
  have hsucceeds : ((Command.reconcile eastReconcile).run Read.regionFolder).failure = none := by
    rw [Command.run, hresult]
    decide +kernel
  have hback : (Record.ofConfig { Read.regionConfig with items := Read.eastItems }).ReadsBack :=
    Record.readsBack_iff.2 (by decide +kernel)
  refine ⟨hsucceeds, hspares, hresult, hback, ?_⟩
  exact run_saved_eq_run_stored (c := eastReconcile) (r := Read.regionRead ["east"]) rfl
    hsucceeds hspares (.refl _ _) (fun config h => Except.ok.inj (hresult.symm.trans h) ▸ hback)
    rfl rfl

end OneTable.CommandLine
