import OneTable.Proofs.CommandLine.Applied
import OneTable.Proofs.Folder
import OneTable.Proofs.Reader.Pouring

/-!
# The order of the rows that `read` writes

The rows of a reading come item by item, in the order of the items of the configuration that is
applied. Where that configuration comes from a scan – because there was none, or because a stored
one was carried over – its items stand in the order in which the files are named, and so do the
rows. But a stored configuration is applied as it stands whenever it was made for the *same*
files, and their order does not matter for that. Then its own order decides, and naming the
files the other way round changes nothing.

The rows of a file are those of `OneTable.CommandLine.Read.readFolder`, where the file that is
written is without rows; this matters only if it is one of the files that are read.

* `OneTable.CommandLine.Read.readOrder` – the order in which files are read;
* `OneTable.CommandLine.Read.written` – what a reading wrote;
* `OneTable.CommandLine.Read.written_in_readOrder` – **a reading that ends well writes the rows
  file by file,** in the order in which files are read.
-/

namespace OneTable.CommandLine.Read

variable {c : Read} {folder : Folder} {options : CsvOptions} {root : String}
  {stored : Option Config} {config : Config}

/-! ### What was settled -/

/-- **What a reading has settled:** its options, its root, and a reader that keeps the stored
configuration or what became of it. -/
theorem settled_eq_ok {reader : Reader}
    (h : c.settled folder = .ok ⟨options, root, reader⟩) :
    c.input.options = .ok options ∧ ∃ stored, c.stored folder = .ok stored ∧
      root = c.rootFor stored ∧
      ((stored = none ∧ reader = { mode := c.mode }) ∨
        ∃ old config, stored = some old ∧ c.carried options folder root old = .ok config ∧
          reader = { cached := some config, mode := c.mode }) := by
  obtain ⟨options', hoptions, h⟩ := bind_eq_ok_iff.1 h
  obtain ⟨stored, hstored, h⟩ := bind_eq_ok_iff.1 h
  rcases stored with _ | old
  · obtain ⟨rfl, rfl, rfl⟩ := Settled.mk.inj (Except.ok.inj h)
    exact ⟨hoptions, none, hstored, rfl, Or.inl ⟨rfl, rfl⟩⟩
  · obtain ⟨config, hcarried, h⟩ := bind_eq_ok_iff.1 h
    obtain ⟨rfl, rfl, rfl⟩ := Settled.mk.inj (Except.ok.inj h)
    exact ⟨hoptions, some old, hstored, rfl, Or.inr ⟨old, config, rfl, hcarried, rfl⟩⟩

/-- A configuration that was carried over is the old one, or its items are what was scanned. -/
theorem carried_eq_ok {old : Config} (h : c.carried options folder root old = .ok config) :
    config = old ∨ c.input.scanned options folder = .ok config.items := by
  rw [carried] at h
  split at h
  · obtain ⟨found, hfound, h⟩ := bind_eq_ok_iff.1 h
    rw [(Config.made_reconcile (mapError_eq_ok_iff.1 h)).2]
    exact Or.inr hfound
  · exact Or.inl (Except.ok.inj h).symm

/-! ### The order of the files -/

/-- **The order in which files are read:** that of a stored configuration that was made for them,
and else the order in which they are named. -/
def readOrder (c : Read) : Option Config → List String
  | none => c.input.items
  | some old =>
    if old.isFor (c.rootFor (some old)) c.input.items then old.items.names else c.input.items

/-- **The items of the configuration that is applied** stand in the order in which files are
read. -/
theorem names_configFor {source : Source} {reader reader' : Reader} (hd : c.input.items.Nodup)
    (hsettled : c.settled folder = .ok ⟨options, root, reader⟩)
    (hstored : c.stored folder = .ok stored)
    (hconfig : reader.configFor source root c.input.items = (.ok config, reader')) :
    config.items.names = c.readOrder stored := by
  obtain ⟨-, stored', hstored', rfl, hreader⟩ := settled_eq_ok hsettled
  obtain rfl := Except.ok.inj (hstored.symm.trans hstored')
  have hused := Reader.kept_or_names_of_configFor hd hconfig
  rcases hreader with ⟨rfl, rfl⟩ | ⟨old, kept, rfl, hcarried, rfl⟩
  · exact hused.resolve_left fun h => absurd h.1 (by simp)
  · rw [readOrder]
    by_cases hfor : old.isFor (c.rootFor (some old)) c.input.items = true
    · -- the stored configuration is applied as it stands
      rw [if_pos hfor]
      obtain rfl := Except.ok.inj ((carried_of_isFor hfor).symm.trans hcarried)
      obtain rfl := Except.ok.inj (congrArg Prod.fst
        ((Reader.configFor_of_isFor rfl hfor).symm.trans hconfig))
      rfl
    · rw [if_neg hfor]
      rcases hused with ⟨hcached, hkept⟩ | hnames
      · obtain rfl := Option.some.inj hcached
        rcases carried_eq_ok hcarried with rfl | hfound
        · exact absurd hkept hfor
        · exact names_scanItems hd (mapError_eq_ok_iff.1 hfound)
      · exact hnames

/-! ### What was written -/

/-- **What a reading wrote:** what it printed, or what is in the file that it wrote to. -/
def written (c : Read) (outcome : Outcome) : Except FileFault (List UInt8) :=
  match c.file with
  | none => .ok outcome.output
  | some path => outcome.folder.read path

/-- Where there is no failure, rows were read well and what was written is there. -/
theorem of_outcomeOf_failure_eq_none {result : Except Fault ℕ} {w : WrittenFile}
    (h : (c.outcomeOf folder result w).failure = none) :
    (∃ n, result = .ok n) ∧ c.written (c.outcomeOf folder result w) = .ok w.bytes := by
  have hresult : failureOf result = none → ∃ n, result = .ok n := by
    rcases result with fault | n
    · exact fun h => absurd h (by simp [failureOf])
    · exact fun _ => ⟨n, rfl⟩
  revert h
  simp only [outcomeOf, written, readFolder]
  rcases c.file with _ | path
  · exact fun h => ⟨hresult h, rfl⟩
  · rcases htarget : folder.target path with e | place
    · simp only [htarget]
      exact fun h => absurd h (by simp)
    · simp only [htarget]
      exact fun h => ⟨hresult h, Folder.read_put (Folder.target_put htarget)⟩

/-- **A reading that ends well writes the rows file by file,** in the order in which files are
read. It applies a configuration whose items are these files, and below the line of names come
the rows of the first file, then those of the next, and so on. -/
theorem written_in_readOrder (hd : c.input.items.Nodup)
    (hrun : (c.run folder).failure = none) :
    ∃ stored options config schema blocks, c.stored folder = .ok stored ∧
      c.input.options = .ok options ∧ c.run folder = c.applying options config folder ∧
      config.outputSchema = .ok schema ∧
      List.Forall₂ (fun item block => ∃ spec, (item, spec) ∈ config.items.entries ∧
        config.RowsOf (options.source (c.readFolder folder)) item spec block)
        (c.readOrder stored) blocks ∧
      c.written (c.run folder) = .ok (Sink.tableBytes c.delimiter schema blocks.flatten) := by
  rcases hsettled : c.settled folder with failure | ⟨options, root, reader⟩
  · rw [run, hsettled] at hrun
    exact absurd hrun (by simp)
  · obtain ⟨hoptions, stored, hstored, -⟩ := settled_eq_ok hsettled
    have houtcome := run_eq_outcomeOf hsettled
    rcases hread : reader.readInto (options.source (c.readFolder folder)) root c.input.items
      (Sink.delimited c.delimiter) {} with ⟨result, w, reader'⟩
    rw [hread] at houtcome
    obtain ⟨⟨n, rfl⟩, hwritten⟩ := of_outcomeOf_failure_eq_none (houtcome ▸ hrun)
    obtain ⟨config, hconfig, hread⟩ := Reader.readInto_eq_ok_iff.1 hread
    obtain ⟨schema, rows, hschema, hstream, rfl, -⟩ :=
      Config.readInto_delimited_eq_ok_iff.1 hread
    obtain ⟨blocks, hblocks, rfl⟩ := Config.stream_eq_map_ok_iff.1 hstream
    refine ⟨stored, options, config, schema, blocks, hstored, hoptions,
      run_eq_applying hsettled hconfig, hschema, ?_, houtcome ▸ hwritten⟩
    rw [← names_configFor hd hsettled hstored hconfig, Items.names, List.forall₂_map_left_iff]
    exact List.forall₂_iff_zip.2 ⟨hblocks.length_eq, fun hmem =>
      ⟨_, (List.of_mem_zip hmem).1, List.forall₂_zip hblocks hmem⟩⟩

/-! ### The other way round -/

/-- The regions that are named the other way round are those of the stored configuration. -/
theorem run_regionRead_exchanged : (regionRead ["west", "east"]).run regionFolder =
    (regionRead ["west", "east"]).applying {} regionConfig regionFolder :=
  run_eq_of_isFor rfl (stored_regionRead _) rfl (by decide)

theorem written_in_readOrder_exchanged :
    ["west", "east"].Nodup ∧
    ((regionRead ["west", "east"]).run regionFolder).failure = none ∧
    ∃ stored options config schema blocks,
      (regionRead ["west", "east"]).stored regionFolder = .ok stored ∧
      (regionRead ["west", "east"]).input.options = .ok options ∧
      (regionRead ["west", "east"]).run regionFolder =
        (regionRead ["west", "east"]).applying options config regionFolder ∧
      config.outputSchema = .ok schema ∧
      List.Forall₂ (fun item block => ∃ spec, (item, spec) ∈ config.items.entries ∧
        config.RowsOf (options.source ((regionRead ["west", "east"]).readFolder regionFolder))
          item spec block) ((regionRead ["west", "east"]).readOrder stored) blocks ∧
      (regionRead ["west", "east"]).written ((regionRead ["west", "east"]).run regionFolder) =
        .ok (Sink.tableBytes (regionRead ["west", "east"]).delimiter schema blocks.flatten) := by
  have hd : ["west", "east"].Nodup := by decide
  have hrun : ((regionRead ["west", "east"]).run regionFolder).failure = none := by
    rw [run_regionRead_exchanged]
    decide +kernel
  exact ⟨hd, hrun, written_in_readOrder hd hrun⟩

/-- **The rows of the west do not come first,** although the west is named first. -/
theorem not_written_in_order_exchanged :
    ["west", "east"].Nodup ∧
    (regionRead ["west", "east"]).run regionFolder =
      (regionRead ["west", "east"]).applying {} regionConfig regionFolder ∧
    ((regionRead ["west", "east"]).run regionFolder).failure = none ∧
    ¬∃ schema blocks, regionConfig.outputSchema = .ok schema ∧
      List.Forall₂ (fun item block => ∃ spec, (item, spec) ∈ regionConfig.items.entries ∧
        regionConfig.RowsOf (({} : CsvOptions).source regionFolder) item spec block)
        ["west", "east"] blocks ∧
      (regionRead ["west", "east"]).written ((regionRead ["west", "east"]).run regionFolder) =
        .ok (Sink.tableBytes 44 schema blocks.flatten) := by
  refine ⟨by decide, run_regionRead_exchanged, ?_, ?_⟩
  · rw [run_regionRead_exchanged]
    decide +kernel
  · rintro ⟨schema, blocks, hschema, hblocks, hwritten⟩
    obtain rfl : [⟨"number", .integer⟩] = schema :=
      Except.ok.inj ((by decide : regionConfig.outputSchema = .ok _).symm.trans hschema)
    obtain ⟨west, _, hwest, hrest, rfl⟩ := List.forall₂_cons_left_iff.1 hblocks
    obtain ⟨east, _, heast, hnil, rfl⟩ := List.forall₂_cons_left_iff.1 hrest
    obtain rfl := List.forall₂_nil_left_iff.1 hnil
    -- both items have the same columns
    have hspec : ∀ item spec, (item, spec) ∈ regionConfig.items.entries →
        spec = ⟨[Column.ofType "order" .integer]⟩ := by
      intro item spec hmem
      rcases List.mem_cons.1 hmem with heq | hmem
      · exact congrArg Prod.snd heq
      · exact congrArg Prod.snd (List.mem_singleton.1 hmem)
    obtain ⟨spec, hmem, hwest⟩ := hwest
    obtain rfl := hspec _ _ hmem
    obtain ⟨spec, hmem, heast⟩ := heast
    obtain rfl := hspec _ _ hmem
    obtain rfl : west = [[some (.integer 9)]] :=
      hwest.eq (Config.itemStream_eq_map_ok_iff.1 (by decide +kernel))
    obtain rfl : east = [[some (.integer 7)]] :=
      heast.eq (Config.itemStream_eq_map_ok_iff.1 (by decide +kernel))
    rw [run_regionRead_exchanged] at hwritten
    revert hwritten
    decide +kernel

end OneTable.CommandLine.Read
