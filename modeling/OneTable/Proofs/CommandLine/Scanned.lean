import OneTable.Proofs.CommandLine.Saved

/-!
# Scanning before a reading, or in it

A reading without a configuration makes a fresh one of the files, in memory, and drops it when it
is done. One can as well scan the files first, save the configuration, and read with it. Nothing
is gained by that as long as nobody edits the configuration and the files stay what they are; and
nothing may be lost by it either.

The two configurations are not the same. What was saved may be for another root, it may drop
columns that turn up later, it was loaded from a document that has no types of single items, and
where the reading has the same root and a file is named twice, it was carried over to the files
once more. But a fresh configuration of the same items differs from the one that was made by its
root and by what becomes of later columns, and by nothing else
(`OneTable.CommandLine.Scan.fresh_of_result`), so that it has the same columns and rows. And this
is also what the reader makes if it cannot use what it was handed, which it can exactly if the root
is the same and no file is named twice.

* `OneTable.CommandLine.Scan.fresh_of_result` – what `scan` makes, and what a reader makes;
* `OneTable.CommandLine.Read.run_eq_of_fresh` – a reader that has no use for what it was handed;
* `OneTable.CommandLine.Scan.run_saved_eq_run_none` – **both ways lead to one table**.
-/

namespace OneTable

/-- Whether a configuration was made for a list depends on its root and on its items. -/
theorem Config.isFor_congr {c c' : Config} (hrootId : c'.rootId = c.rootId)
    (hitems : c'.items = c.items) (root : String) (items : List String) :
    c'.isFor root items = c.isFor root items := by
  rw [isFor, isFor, hrootId, hitems]

namespace CommandLine

/-! ### What is made of files that were scanned -/

namespace Scan

variable {c : Scan} {folder : Folder} {config : Config}

/-- **What `scan` makes:** the configuration of a fresh model, which may be told to drop columns
that turn up later. -/
theorem result_eq_ok_iff : c.result folder = .ok config ↔
    ∃ options found raw m, c.input.options = .ok options ∧
      c.input.scanned options folder = .ok found ∧ RawSpec.ofItems? found = some raw ∧
      Model.fresh raw c.mode = .ok m ∧
      (if c.dropUnknown then m.setKeepUnknown false else m).toConfig c.root found = .ok config := by
  simp only [result, bind_eq_ok_iff, mapError_eq_ok_iff, Config.rawSpec_eq_ok_iff, exists_and_left]

/-- A configuration that was scanned comes up in a run from a fresh model. -/
theorem produced_of_result (h : c.result folder = .ok config) : config.Produced := by
  obtain ⟨options, found, raw, m, -, -, -, hm, hconfig⟩ := result_eq_ok_iff.1 h
  have hfresh : m.IsFresh := ⟨raw, c.mode, hm⟩
  refine .rendered (m := if c.dropUnknown then m.setKeepUnknown false else m) ?_ hconfig
  cases c.dropUnknown
  · exact ⟨m, [], hfresh, rfl⟩
  · exact ⟨m, [.setKeepUnknown false], hfresh, rfl⟩

/-- **A fresh configuration of the same items** differs by its root and by what becomes of later
columns only. -/
theorem fresh_of_result (h : c.result folder = .ok config) :
    ∃ options, c.input.options = .ok options ∧
      c.input.scanned options folder = .ok config.items ∧
      ∀ root, Config.fresh root config.items c.mode =
        .ok { config with rootId := root, keepUnknown := true } := by
  obtain ⟨options, found, raw, m, hoptions, hfound, hraw, hm, hconfig⟩ := result_eq_ok_iff.1 h
  obtain ⟨halign, hoff⟩ := Model.aligned_fresh hm
  have hcolumns := Except.ok.inj (guard_eq_ok_iff.1 hm).2
  have hraw' : RawSpec.ofItems? found = some m.raw := by rw [hraw, ← hcolumns]
  have hkeep : m.keepUnknown = true := by rw [← hcolumns]
  -- what becomes of later columns is no part of what makes a model aligned
  have hrendered : config = { m.rendering c.root found with keepUnknown := !c.dropUnknown } := by
    cases hdrop : c.dropUnknown <;> simp only [hdrop] at hconfig
    · have hrender : m.toConfig c.root found = .ok (m.rendering c.root found) :=
        Model.toConfig_eq_ok halign hoff.sourced hraw'
      rw [Except.ok.inj (hconfig.symm.trans hrender), Bool.not_false, ← hkeep]
      rfl
    · have halign' : (m.setKeepUnknown false).Aligned := ⟨halign.columns_perm, halign.anchor_le⟩
      have hrender : (m.setKeepUnknown false).toConfig c.root found =
          .ok ((m.setKeepUnknown false).rendering c.root found) :=
        Model.toConfig_eq_ok halign' hoff.sourced hraw'
      exact Except.ok.inj (hconfig.symm.trans hrender)
  refine ⟨options, hoptions, hrendered ▸ hfound, fun root => ?_⟩
  rw [hrendered, ← hkeep]
  exact Config.fresh_eq_ok_iff.2
    ⟨raw, m, hraw, hm, Model.toConfig_eq_ok halign hoff.sourced hraw'⟩

end Scan

/-! ### Readers that make a fresh configuration -/

namespace Read

variable {c : Read} {folder : Folder} {options : CsvOptions} {root : String}
  {cached : Option Config} {config : Config}

/-- **A reader that has no use for what it was handed** makes a fresh configuration. -/
theorem run_eq_of_fresh
    (hsettled : c.settled folder = .ok ⟨options, root, { cached := cached, mode := c.mode }⟩)
    (huseless : ∀ k, cached = some k → k.isFor root c.input.items = false)
    (hfound : c.input.scanned options (c.readFolder folder) = .ok config.items)
    (hfresh : Config.fresh root config.items c.mode = .ok config) :
    c.run folder = c.applying options config folder := by
  have hconfig := Reader.configFor_of_fresh (r := { cached := cached, mode := c.mode }) huseless
    (mapError_eq_ok_iff.1 hfound) hfresh
  exact run_eq_applying hsettled (Prod.ext hconfig rfl)

/-- A configuration that is fresh but for its root and for what becomes of later columns gives the
table of a fresh one. -/
theorem applying_fresh (c : Read) (options : CsvOptions) (config : Config) (root : String)
    (folder : Folder) :
    c.applying options { config with rootId := root, keepUnknown := true } folder =
      c.applying options config folder :=
  applying_congr rfl (Config.stream_congr rfl rfl)

/-- What a reading settles on that is handed what was scanned. It is either of use, and then it
was made for the files, or it is of none. -/
theorem settled_of_scanned {path : String} (hoptions : c.input.options = .ok options)
    (hfound : c.input.scanned options folder = .ok config.items) (halign : config.Aligned)
    (hshared : Model.lacksShared config.mode config.raw = false)
    (hload : Config.load folder path fallbackType = .ok config.settled) :
    ∃ k, { c with config := some path }.settled folder =
        .ok ⟨options, c.root.getD config.rootId, { cached := some k, mode := c.mode }⟩ ∧
      (k.isFor (c.root.getD config.rootId) c.input.items = true → k = config.settled) := by
  have hstored : { c with config := some path }.stored folder = .ok (some config.settled) :=
    stored_of_load rfl hload
  have hnamed : { c with config := some path }.rootFor (some config.settled) =
      c.root.getD config.rootId := rfl
  have hsettled : ∀ k, { c with config := some path }.carried options folder
      (c.root.getD config.rootId) config.settled = .ok k →
      { c with config := some path }.settled folder =
        .ok ⟨options, c.root.getD config.rootId, { cached := some k, mode := c.mode }⟩ := by
    intro k hk
    rw [← hnamed] at hk ⊢
    exact settled_of_stored hoptions hstored hk
  generalize c.root.getD config.rootId = root at hsettled ⊢
  by_cases hfor : config.isFor root c.input.items = true
  · have huse : config.settled.isFor root c.input.items = true :=
      (Config.isFor_settled root c.input.items).trans hfor
    exact ⟨_, hsettled _ (carried_of_isFor huse), fun _ => rfl⟩
  · by_cases hroot : config.rootId = root
    · -- it is carried over to its own items, which does not make it one for other names
      subst hroot
      have hreconcile := halign.reconcile_settled_items hshared
      refine ⟨_, hsettled _ (carried_of_not_isFor ?_ hfound hreconcile), fun hk => ?_⟩
      · exact (Config.isFor_settled _ _).trans (Bool.eq_false_iff.2 hfor)
      · exact absurd ((Config.isFor_congr rfl rfl _ _).symm.trans hk) hfor
    · refine ⟨_, hsettled _ ?_, fun _ => rfl⟩
      rw [carried, if_neg fun h => hroot h.1]
      rfl

section Scanned

variable (hoptions : c.input.options = .ok options)
  (hemptied : c.input.scanned options (c.readFolder folder) = .ok config.items)
  (hfresh : ∀ root, Config.fresh root config.items c.mode =
    .ok { config with rootId := root, keepUnknown := true })
include hoptions hemptied hfresh

/-- A reading without a configuration gives the table of what was scanned. -/
theorem run_eq_of_none :
    { c with config := none }.run folder = c.applying options config folder := by
  have hsettled : { c with config := none }.settled folder =
      .ok ⟨options, { c with config := none }.rootFor none, { cached := none, mode := c.mode }⟩ :=
    bind_eq_ok_iff.2 ⟨options, hoptions, rfl⟩
  rw [← c.applying_fresh options config (c.rootFor none) folder]
  exact run_eq_of_fresh (c := { c with config := none }) hsettled nofun hemptied (hfresh _)

/-- **A reading that is handed what was scanned** gives its table. -/
theorem run_eq_of_scanned {path : String}
    (hfound : c.input.scanned options folder = .ok config.items) (halign : config.Aligned)
    (hload : Config.load folder path fallbackType = .ok config.settled) :
    { c with config := some path }.run folder = c.applying options config folder := by
  have hshared := Config.lacksShared_of_fresh (hfresh config.rootId)
  obtain ⟨k, hsettled, huse⟩ := settled_of_scanned hoptions hfound halign hshared hload
  by_cases hfor : k.isFor (c.root.getD config.rootId) c.input.items = true
  · obtain rfl := huse hfor
    rw [← applying_settled]
    exact run_eq_applying hsettled (Reader.configFor_of_isFor rfl hfor)
  · have huseless : ∀ k', some k = some k' →
        k'.isFor (c.root.getD config.rootId) c.input.items = false := by
      rintro _ ⟨⟩
      exact Bool.eq_false_iff.2 hfor
    rw [← c.applying_fresh options config (c.root.getD config.rootId) folder]
    exact run_eq_of_fresh (c := { c with config := some path }) hsettled huseless hemptied
      (hfresh _)

end Scanned

end Read

/-! ### Both ways -/

/-- **Scanning before a reading and scanning in it lead to one table.** Let `scan` end well, and
save to a file that is none of the items. Then, as long as these files are what they were, and for
a reading that does not write to an item either, it makes no difference whether it is handed what
was saved, or nothing. -/
theorem Scan.run_saved_eq_run_none {c : Scan} {r : Read} {folder later : Folder}
    (hsucceeds : ((Command.scan c).run folder).failure = none)
    (hspares : (Command.scan c).Spares folder c.input.items)
    (hkept : ((Command.scan c).run folder).folder.Keeps later (c.output :: c.input.items))
    (hback : ∀ config, c.result folder = .ok config → (Record.ofConfig config).ReadsBack)
    (hinput : r.input = c.input) (hmode : r.mode = c.mode)
    (hread : (Command.read r).Spares later r.input.items) :
    { r with config := some c.output }.run later = { r with config := none }.run later := by
  obtain ⟨config, hresult, hdocument, hfiles⟩ := hspares.found_later rfl rfl hsucceeds hkept
  obtain ⟨options, hoptions, hfound, hfresh⟩ := Scan.fresh_of_result hresult
  obtain ⟨halign, hoff⟩ := (Scan.produced_of_result hresult).aligned
  have hload : Config.load later c.output fallbackType = .ok config.settled :=
    Config.load_of_saved halign hoff (hback _ hresult) hdocument
  rw [← hinput] at hoptions hfound hfiles
  rw [← hmode] at hfresh
  have hagain := InputOptions.scanned_of_keeps hfiles hfound
  have hemptied := InputOptions.scanned_of_keeps (Read.keeps_readFolder hread) hagain
  rw [Read.run_eq_of_scanned hoptions hemptied hfresh hagain halign hload,
    Read.run_eq_of_none hoptions hemptied hfresh]

/-! ### Orders and fractions -/

/-- The orders of two regions. Only one of them counts in fractions. -/
def mixedFolder : Folder :=
  (({} : Folder).withFile "east" (Utf8.encode "order\n7\n".toList)).withFile "west"
    (Utf8.encode "order\n9.5\n".toList)

/-- The command to scan them, one of them twice. -/
def mixedScan : Scan where
  input := { items := ["east", "west", "east"] }
  root := "sales"
  output := "scanned"
  mode := .union
  dropUnknown := true

/-- The command to read them. -/
def mixedRead : Read where
  input := mixedScan.input
  config := none
  root := none
  mode := .union
  output := none
  outputDelimiter := none

/-- What is made of them: the items have types of their own. -/
def mixedConfig : Config where
  rootId := "sales"
  items :=
    { entries := [("east", ⟨[Column.ofType "order" .integer]⟩),
        ("west", ⟨[Column.ofType "order" .float]⟩)]
      distinct := by simp }
  raw :=
    { union := [Column.ofType "order" .float]
      intersection := [Column.ofType "order" .float]
      distinct := by simp
      shared := List.Sublist.refl _ }
  settings := [⟨"order", ⟨"order", .float⟩, .standard .float, true⟩]
  order := [0]
  mode := .union
  keepUnknown := false
  anchor := 1

theorem Scan.run_saved_eq_run_none_mixed :
    ((Command.scan mixedScan).run mixedFolder).failure = none ∧
    (Command.scan mixedScan).Spares mixedFolder mixedScan.input.items ∧
    mixedScan.result mixedFolder = .ok mixedConfig ∧ (Record.ofConfig mixedConfig).ReadsBack ∧
    mixedConfig.settled ≠ mixedConfig ∧
    { mixedRead with config := some "scanned" }.run
        ((Command.scan mixedScan).run mixedFolder).folder =
      { mixedRead with config := none }.run ((Command.scan mixedScan).run mixedFolder).folder := by
  have hsucceeds : ((Command.scan mixedScan).run mixedFolder).failure = none := by decide +kernel
  have hspares : (Command.scan mixedScan).Spares mixedFolder mixedScan.input.items := by
    rintro _ place ⟨⟩ hplace
    obtain rfl : ["scanned"] = place := Except.ok.inj (Eq.trans (by decide +kernel) hplace)
    decide +kernel
  have hresult : mixedScan.result mixedFolder = .ok mixedConfig := by decide +kernel
  have hback : (Record.ofConfig mixedConfig).ReadsBack :=
    Record.readsBack_iff.2 (by decide +kernel)
  refine ⟨hsucceeds, hspares, hresult, hback, by decide +kernel, ?_⟩
  exact run_saved_eq_run_none (c := mixedScan) hsucceeds hspares (.refl _ _)
    (fun config h => Except.ok.inj (hresult.symm.trans h) ▸ hback) rfl rfl nofun

end CommandLine

end OneTable
