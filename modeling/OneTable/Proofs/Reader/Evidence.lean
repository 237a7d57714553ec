import OneTable.Proofs.Config.Rendering
import OneTable.Proofs.Conversion
import OneTable.Proofs.Inference
import OneTable.Proofs.Reader.Sampling
import OneTable.Proofs.Record.RoundTrip

/-!
# Evidence is never at fault

The cells of a file are looked at twice: when its columns are scanned they are evidence for the
types, and when its rows are read they are converted. In between stand the other files of the
group, whose columns widen the types; the user, who chooses a path for every column; and older
files, from whose configuration paths are carried over.

None of them can make the evidence a fault. A column of the raw spec has a type that is wide
enough for what every file has seen under its name, a path of a configuration is always one that
this type offers, and whatever a narrower type was recognised from is converted along such a path.
So where the scan looked at *all* rows, and nothing has changed since, every cell that spoke for
its column has its value. What remains are cells that did not speak: a cell of blanks alone is not
evidence, but it is not missing either, and it is the only kind of cell at which a reading can
fail.

* `OneTable.CsvOptions.exists_table_of_itemColumns` – a scan of all rows has read them all;
* `OneTable.CsvOptions.accepts_of_itemColumns` – the evidence belongs to the type of its column;
* `OneTable.Config.ConvertsEvidence` – every cell that speaks has a value along the path of its
  column;
* `OneTable.Config.convertsEvidence_of_produced` – **evidence is never at fault**.
-/

namespace OneTable

/-! ### Scans of all rows -/

/-- What a header and types make of a place. -/
theorem TableSpec.getElem?_pair (names : List String) (types : List (Option ColumnType))
    (place : ℕ) : (pair names types)[place]? =
      names[place]?.map fun name => Column.ofEvidence name types[place]?.join := by
  induction names generalizing types place with
  | nil => rfl
  | cons name names ih =>
    rcases types with _ | ⟨t, types⟩
    · cases place with
      | zero => rfl
      | succ place => exact (ih [] place).trans (by simp)
    · cases place with
      | zero => rfl
      | succ place => exact ih types place

namespace CsvOptions

variable {o : CsvOptions} {folder : Folder} {item path : String}

/-- **A scan of all rows has read them all:** they can be read again, and the columns are
recognised from them. -/
theorem exists_table_of_itemColumns (hall : o.sampleRows = 0) {spec : TableSpec}
    (h : o.itemColumns folder item = .ok spec) :
    ∃ (header : List String) (table : List (List String)),
      o.itemRows folder item = .ok (table.map .ok) ∧
      spec = TableSpec.ofHeader header ((table.foldl Evidence.addRow
        (header.map fun _ => Evidence.none)).map Evidence.type?) := by
  obtain ⟨u, hcheck, hcolumns⟩ := bind_eq_ok_iff.1 (mapError_eq_ok_iff.1 h)
  obtain ⟨bytes, hread, hcolumns⟩ := columnsOf_eq_ok_iff.1 hcolumns
  obtain ⟨header, table, -, hrows, -, rfl⟩ := columnsOfTable_eq_ok_iff.1 hcolumns
  rw [sample, if_pos hall] at hrows
  refine ⟨header, table, bind_eq_ok_iff.2 ⟨u, hcheck, ?_⟩, rfl⟩
  rw [rowsOf, hread]
  exact congrArg Except.ok hrows

/-- **The evidence belongs to the type of its column.** -/
theorem accepts_of_itemColumns (hall : o.sampleRows = 0) {spec : TableSpec}
    (h : o.itemColumns folder item = .ok spec) :
    ∃ table : List (List String), o.itemRows folder item = .ok (table.map .ok) ∧
      ∀ cells ∈ table, ∀ (place : ℕ) (column : Column) (cell : String),
        spec.columns[place]? = some column → cells[place]? = some cell →
        Text.trim cell.toList ≠ [] →
        column.typed = true ∧ column.type.accepts (Text.trim cell.toList) = true := by
  obtain ⟨header, table, htable, rfl⟩ := exists_table_of_itemColumns hall h
  refine ⟨table, htable, fun cells hcells place column cell hcolumn hcell hspeaks => ?_⟩
  obtain ⟨t, ht, haccepts⟩ :=
    Evidence.exists_type?_of_mem (Evidence.mem_cellsAt hcells hcell) hspeaks
  rw [TableSpec.ofHeader, TableSpec.getElem?_pair] at hcolumn
  obtain ⟨name, hname, rfl⟩ := Option.map_eq_some_iff.1 hcolumn
  -- there is a cell of the header above the cell, and with it the evidence of its column
  have hlt : place < header.length := by
    rw [← length_resolveNames header]
    exact (List.getElem?_eq_some_iff.1 hname).1
  rw [List.getElem?_map, Evidence.getElem?_foldl_addRow, List.getElem?_map,
    List.getElem?_eq_getElem hlt, Option.map_some, Option.map_some, Option.map_some, ht,
    Option.join_some]
  exact ⟨rfl, haccepts⟩

end CsvOptions

/-! ### Configurations -/

namespace Config

variable {c : Config} {source : Source} {o : CsvOptions} {folder : Folder}

/-- **A configuration converts the evidence of a source:** the rows of its items can be read, and
every cell below a column of an item that is more than blanks has a value along the path that is
set for the name of the column. -/
def ConvertsEvidence (c : Config) (source : Source) : Prop :=
  ∀ item spec, (item, spec) ∈ c.items.entries → ∃ table : List (List String),
    source.rows item = .ok (table.map .ok) ∧
    ∀ cells ∈ table, ∀ (place : ℕ) (column : Column) (cell : String),
      spec.columns[place]? = some column → cells[place]? = some cell →
      Text.trim cell.toList ≠ [] →
      (∃ s ∈ c.settings, s.rawName = column.name) ∧
        ∀ s ∈ c.settings, s.rawName = column.name → ∃ v, s.path.convert cell = .ok (some v)

/-- A column with evidence has a setting, and its path is one that a wide enough type offers. -/
theorem Aligned.path_available (h : c.Aligned) (hoff : c.Offered) {column : Column}
    (hcolumn : column ∈ c.items.columns) (htyped : column.typed = true) :
    (∃ s ∈ c.settings, s.rawName = column.name) ∧
      ∀ s ∈ c.settings, s.rawName = column.name →
        ∃ u, column.type.WidensTo u ∧ s.path ∈ ConversionPath.available u := by
  obtain ⟨u, hu, hname, -, hwide⟩ := RawSpec.coveredBy_union h.raw_eq hcolumn htyped
  obtain ⟨i, hi⟩ := List.mem_iff_getElem?.1 hu
  obtain ⟨-, s, -, hs⟩ := h.exists_setting (List.getElem?_eq_some_iff.1 hi).1
  refine ⟨⟨s, List.mem_of_getElem? hs, (h.rawName_eq hi hs).trans hname⟩, fun s hs hraw => ?_⟩
  -- the setting of the name is the one at the place of the covering column
  obtain ⟨j, hj⟩ := List.mem_iff_getElem?.1 hs
  obtain ⟨d, s', hd, hs'⟩ :=
    h.exists_setting (h.length_settings ▸ (List.getElem?_eq_some_iff.1 hj).1)
  obtain rfl : s = s' := Option.some.inj (hj.symm.trans hs')
  have hdu : d = u := by
    refine eq_of_key_eq c.raw.distinct (List.mem_of_getElem? hd) hu ?_
    rw [← h.rawName_eq hd hj, hraw, hname]
  have hsource : s.path.source = u.type := hdu ▸ h.source_eq hd hj
  exact ⟨u.type, hwide, hsource ▸ hoff s.path (List.mem_map_of_mem hs)⟩

/-- **A configuration of what was scanned in all rows** converts the evidence. -/
theorem Aligned.convertsEvidence (h : c.Aligned) (hoff : c.Offered) (hall : o.sampleRows = 0)
    (hscanned : ∀ e ∈ c.items.entries, o.itemColumns folder e.1 = .ok e.2) :
    c.ConvertsEvidence (o.source folder) := by
  intro item spec hentry
  obtain ⟨table, htable, haccepts⟩ :=
    CsvOptions.accepts_of_itemColumns hall (hscanned (item, spec) hentry)
  refine ⟨table, htable, fun cells hcells place column cell hcolumn hcell hspeaks => ?_⟩
  obtain ⟨htyped, haccept⟩ := haccepts cells hcells place column cell hcolumn hcell hspeaks
  have hmem : column ∈ c.items.columns :=
    List.mem_flatMap.2 ⟨(item, spec), hentry, List.mem_of_getElem? hcolumn⟩
  obtain ⟨hsetting, hpaths⟩ := h.path_available hoff hmem htyped
  refine ⟨hsetting, fun s hs hraw => ?_⟩
  obtain ⟨u, hwide, hpath⟩ := hpaths s hs hraw
  exact ConversionPath.exists_convert hspeaks haccept hwide hpath

/-! ### Faults of the stream -/

/-- The setting of a slot is one of the configuration. -/
theorem setting_mem_of_mem_slots {slot : Slot} (h : slot ∈ c.slots) :
    slot.setting ∈ c.settings := by
  obtain ⟨i, -, hi⟩ := List.mem_filterMap.1 h
  rw [slot?] at hi
  split at hi
  · next s hs =>
    split at hi
    · obtain rfl := Option.some.inj hi
      exact List.mem_of_getElem? hs
    · exact absurd hi.symm (Option.some_ne_none slot)
  · exact absurd hi.symm (Option.some_ne_none slot)

/-- The fault of a slot is that of a cell below the name of the slot. -/
theorem exists_cell_of_fault? {slot : Slot} {spec : TableSpec} {cells : List String}
    {fault : Fault} (h : slot.fault? spec cells = some fault) :
    ∃ (place : ℕ) (column : Column) (cell : String) (cause : CellFault),
      spec.columns[place]? = some column ∧ column.name = slot.setting.rawName ∧
      cells[place]? = some cell ∧ slot.setting.path.convert cell = .error cause ∧
      fault = .conversion slot.setting.output.name cell slot.setting.path.converter cause := by
  obtain ⟨cell, cause, hfound, hconvert, rfl⟩ := Slot.fault?_eq_some_iff.1 h
  rw [TableSpec.cell?_eq] at hfound
  obtain ⟨place, hindex, hcell⟩ := Option.bind_eq_some_iff.1 hfound
  obtain ⟨hlt, hname, -⟩ := List.findIdx?_eq_some_iff_getElem.1 hindex
  exact ⟨place, _, cell, cause, List.getElem?_eq_getElem hlt, of_decide_eq_true hname, hcell,
    hconvert, rfl⟩

/-- **Where the evidence is converted, the stream fails at blanks alone.** -/
theorem ConvertsEvidence.blank_of_fault (h : c.ConvertsEvidence source) {fault : Fault}
    (hfault : .error fault ∈ c.stream source) :
    ∃ name cell converter cause, fault = .conversion name cell converter cause ∧
      Text.trim cell.toList = [] := by
  rw [stream_eq_flatMap] at hfault
  obtain ⟨⟨item, spec⟩, hentry, hresult⟩ := List.mem_flatMap.1 hfault
  obtain ⟨table, htable, hconverts⟩ := h item spec hentry
  simp only [itemStream_eq_itemTable, itemTable, htable, List.map_map] at hresult
  obtain ⟨cells, hcells, hrow⟩ := List.mem_map.1 hresult
  obtain ⟨slot, hslot, hslotFault⟩ := exists_slot_of_rowFor_eq_error hrow
  obtain ⟨place, column, cell, cause, hcolumn, hname, hcell, hconvert, rfl⟩ :=
    exists_cell_of_fault? hslotFault
  refine ⟨_, cell, _, cause, rfl, ?_⟩
  by_contra hspeaks
  obtain ⟨v, hv⟩ := (hconverts cells hcells place column cell hcolumn hcell hspeaks).2
    slot.setting (setting_mem_of_mem_slots hslot) hname.symm
  exact absurd (hconvert.symm.trans hv) error_ne_ok

/-- **Evidence is never at fault.** If the columns of the items were scanned from all rows, and
the configuration is fresh, or edited, or carried over from an older one, then every cell that
speaks for its column is converted along the path of the column, and the rows can only fail at
cells of blanks alone. -/
theorem convertsEvidence_of_produced {items : List String} {w : Watch}
    (hall : o.sampleRows = 0) (hscan : (scanItems (o.source folder) items w).1 = .ok c.items)
    (hc : c.Produced) :
    c.ConvertsEvidence (o.source folder) ∧
      ∀ fault, .error fault ∈ c.stream (o.source folder) →
        ∃ name cell converter cause, fault = .conversion name cell converter cause ∧
          Text.trim cell.toList = [] := by
  obtain ⟨halign, hoff⟩ := hc.aligned
  have hconverts : c.ConvertsEvidence (o.source folder) :=
    halign.convertsEvidence hoff hall fun e he => columns_of_mem_scanItems hscan he
  exact ⟨hconverts, fun _ => hconverts.blank_of_fault⟩

/-! ### Days and instants -/

/-- A file of days, and one of instants. -/
def daysFolder : Folder :=
  (({} : Folder).withFile "east" (Utf8.encode "day\n2024-03-01\n".toList)).withFile "west"
    (Utf8.encode "day\n2024-03-02 10:30:00\n".toList)

/-- All rows are looked at. -/
def daysOptions : CsvOptions where
  sampleRows := 0

/-- What is found in the two files. -/
def daysItems : Items where
  entries := [("east", ⟨[Column.ofType "day" .date]⟩), ("west", ⟨[Column.ofType "day" .dateTime]⟩)]
  distinct := by simp

/-- The two columns are one of instants. -/
def daysRaw : RawSpec where
  union := [Column.ofType "day" .dateTime]
  intersection := [Column.ofType "day" .dateTime]
  distinct := by simp
  shared := List.Sublist.refl _

/-- The model of the two files, where somebody asks for days only. -/
def daysModel : Model :=
  (⟨daysRaw, [Transformation.standard (Column.ofType "day" .dateTime) true], .union, true, 1⟩ :
    Model).run [.setPath "day" (.between .dateTime .date)]

/-- The configuration of this model. -/
def daysConfig : Config :=
  daysModel.rendering "days" daysItems

theorem produced_daysConfig : daysConfig.Produced :=
  .rendered ⟨_, _, ⟨daysRaw, .union, rfl⟩, rfl⟩
    (show daysModel.toConfig "days" daysItems = .ok daysConfig by decide +kernel)

/-- A day is read as an instant, and comes out as a day. -/
theorem convertsEvidence_of_produced_days :
    (scanItems (daysOptions.source daysFolder) ["east", "west"] {}).1 = .ok daysConfig.items ∧
    daysConfig.Produced ∧ daysConfig.ConvertsEvidence (daysOptions.source daysFolder) ∧
    ∀ fault, .error fault ∈ daysConfig.stream (daysOptions.source daysFolder) →
      ∃ name cell converter cause, fault = .conversion name cell converter cause ∧
        Text.trim cell.toList = [] := by
  have hscan : (scanItems (daysOptions.source daysFolder) ["east", "west"] {}).1 =
      .ok daysConfig.items := by decide +kernel
  exact ⟨hscan, produced_daysConfig,
    convertsEvidence_of_produced rfl hscan produced_daysConfig⟩

end Config

end OneTable
