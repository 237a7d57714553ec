import OneTable.Proofs.Reader.Configured
import OneTable.Proofs.Reader.Pouring
import OneTable.Source.Csv

/-!
# Cells and the names above them

A configuration knows the columns of an item by name, and by the places where they stood when
the item was scanned. The reader of rows goes by the *places*. A file, though, may have changed
since: a header may bear the same names in another order, and then a place that a configuration
remembers is the place of another column.

Nothing notices that when the configuration is used again, because a configuration is used
again for items of the same *names*, and the files are not looked at. So what a reading gives is
this. If the configuration was made for other items, or there was none, the items are scanned in
the very same reading, and every cell comes from below its name. If the configuration is used
again, every cell comes from below its name as long as the places that it remembers still bear
the names that they did (`OneTable.Config.PlacesHold`); columns may have come behind them, and
the last ones may be gone. If a place bears another name, its cells come out under a name that
is not theirs, and there is no fault.

* `OneTable.CsvOptions.headerNames?` – the names that a header gives its columns;
* `OneTable.Config.ReadsByName` – rows of the output whose cells come from below their names;
* `OneTable.Reader.readsByName_of_readInto` – **a reading that ends well reads by name,** if the
  places of a configuration that is used again hold.
-/

namespace OneTable

/-! ### Headers -/

namespace CsvOptions

variable {o : CsvOptions} {folder : Folder} {item : String}

/-- **The names that the header of a file gives its columns,** if the header can be read. -/
def headerNames? (o : CsvOptions) (folder : Folder) (path : String) : Option (List String) :=
  match folder.read path with
  | .ok bytes => (o.texts (o.table path bytes).header).toOption.map resolveNames
  | .error _ => none

theorem headerNames?_eq_some_iff {names : List String} :
    o.headerNames? folder item = some names ↔ ∃ bytes header, folder.read item = .ok bytes ∧
      o.texts (o.table item bytes).header = .ok header ∧ resolveNames header = names := by
  rw [headerNames?]
  rcases folder.read item with e | bytes
  · simp
  · rcases htexts : o.texts (o.table item bytes).header with trace | header
    · simp [htexts, Except.toOption]
    · simp [htexts, Except.toOption]

theorem bytesOf_eq_ok_iff {reading : String} {bytes : List UInt8} :
    bytesOf folder item reading = .ok bytes ↔ folder.read item = .ok bytes := by
  rw [bytesOf]
  rcases folder.read item with e | found
  · cases e <;> simp
  · simp

/-- **The columns that were scanned have the names that the header gives them.** -/
theorem headerNames?_of_itemColumns {spec : TableSpec}
    (h : o.itemColumns folder item = .ok spec) : o.headerNames? folder item = some spec.names := by
  obtain ⟨_, -, hcolumns⟩ := bind_eq_ok_iff.1 (mapError_eq_ok_iff.1 h)
  rw [columnsOf] at hcolumns
  split at hcolumns
  · exact absurd hcolumns error_ne_ok
  · next bytes hbytes =>
    obtain ⟨header, hheader, hspec⟩ := bind_eq_ok_iff.1 hcolumns
    obtain ⟨es, -, hspec⟩ := bind_eq_ok_iff.1 hspec
    obtain rfl := Except.ok.inj hspec
    exact headerNames?_eq_some_iff.2 ⟨bytes, header, bytesOf_eq_ok_iff.1 hbytes,
      mapError_eq_ok_iff.1 hheader, (TableSpec.names_ofHeader _ _).symm⟩

/-! ### Rows below a header -/

/-- Reading texts gives as many as there are cells. -/
theorem length_of_texts_eq_ok {cells : List Csv.Cell} {texts : List String}
    (h : o.texts cells = .ok texts) : texts.length = cells.length :=
  (mapM_eq_ok_iff.1 (mapError_eq_ok_iff.1 h)).length_eq.symm

/-- A row of an item is a row of the table in its bytes. -/
theorem exists_row_of_mem_itemRows {found : List SourceRow} {cells : List String}
    (hfound : o.itemRows folder item = .ok found) (hcells : .ok cells ∈ found) :
    ∃ bytes row, folder.read item = .ok bytes ∧ .ok row ∈ (o.table item bytes).rows ∧
      o.texts row = .ok cells := by
  obtain ⟨_, -, hrows⟩ := bind_eq_ok_iff.1 hfound
  rw [rowsOf] at hrows
  split at hrows
  · next bytes hbytes =>
    obtain rfl := Except.ok.inj hrows
    obtain ⟨row | row, hrow, htexts⟩ := List.mem_map.1 hcells
    · exact absurd htexts error_ne_ok
    · exact ⟨bytes, row, hbytes, hrow, htexts⟩
  · obtain rfl := Except.ok.inj hrows
    exact absurd (List.mem_singleton.1 hcells).symm error_ne_ok
  · exact absurd hrows error_ne_ok

end CsvOptions

/-- Every row of a table has a cell for each cell of the header. -/
theorem Csv.Table.length_of_mem_rows {delimiter : UInt8} {bytes : List UInt8}
    {cells : List Cell} (h : .ok cells ∈ (ofBytes delimiter bytes).rows) :
    cells.length = (ofBytes delimiter bytes).header.length := by
  rw [ofBytes] at h ⊢
  split at h
  · exact absurd h List.not_mem_nil
  · next header below =>
    obtain ⟨⟨row, number⟩, -, hrow⟩ := List.mem_map.1 h
    simp only [checkRow] at hrow
    split at hrow
    · next hlength => exact Except.ok.inj hrow ▸ hlength
    · exact absurd hrow error_ne_ok

/-- **Every row has a cell below each name.** -/
theorem CsvOptions.length_of_mem_itemRows {o : CsvOptions} {folder : Folder} {item : String}
    {names cells : List String} {found : List SourceRow}
    (hnames : o.headerNames? folder item = some names)
    (hfound : o.itemRows folder item = .ok found) (hcells : .ok cells ∈ found) :
    cells.length = names.length := by
  obtain ⟨bytes, header, hbytes, hheader, rfl⟩ := headerNames?_eq_some_iff.1 hnames
  obtain ⟨bytes', row, hbytes', hrow, htexts⟩ := exists_row_of_mem_itemRows hfound hcells
  obtain rfl := Except.ok.inj (hbytes.symm.trans hbytes')
  calc cells.length = row.length := length_of_texts_eq_ok htexts
    _ = (o.table item bytes).header.length := Csv.Table.length_of_mem_rows hrow
    _ = header.length := (length_of_texts_eq_ok hheader).symm
    _ = (resolveNames header).length := (length_resolveNames header).symm

/-! ### Rows by name -/

namespace Config

variable {c : Config} {o : CsvOptions} {folder : Folder}

/-- **A row of the output comes from below the names:** a cell that is not missing is converted
from the cell of the row that stands below the name its column had originally. -/
def FromBelow (c : Config) (names cells : List String) (row : OutputRow) : Prop :=
  ∀ (k : ℕ) (slot : Slot) (v : Value), c.slots[k]? = some slot → row[k]? = some (some v) →
    ∃ (place : ℕ) (cell : String), names[place]? = some slot.setting.rawName ∧ cells[place]? = some cell ∧
      slot.setting.path.convert cell = .ok (some v)

/-- **Rows of the output whose cells come from below their names:** there is a block for each
item, in order, with a row for each row of the item. -/
def ReadsByName (c : Config) (o : CsvOptions) (folder : Folder)
    (blocks : List (List OutputRow)) : Prop :=
  List.Forall₂ (fun e block => ∃ names table, o.headerNames? folder e.1 = some names ∧
    o.itemRows folder e.1 = .ok (table.map .ok) ∧
    List.Forall₂ (c.FromBelow names) table block) c.items.entries blocks

/-- **The places that a configuration remembers hold:** the headers can be read, and a name that
stands now where a column of the output stood is the name of that column. -/
def PlacesHold (c : Config) (o : CsvOptions) (folder : Folder) : Prop :=
  ∀ e ∈ c.items.entries, ∃ names, o.headerNames? folder e.1 = some names ∧
    ∀ slot ∈ c.slots, ∀ place name, e.2.index? slot.setting.rawName = some place →
      names[place]? = some name → name = slot.setting.rawName

/-- **A cell of the output that is not missing** was converted from the cell at the place that
the configuration remembers. -/
theorem exists_cell_of_convertRow {spec : TableSpec} {cells : List String} {row : OutputRow}
    (h : convertRow (c.places spec) cells = .ok row) {k : ℕ} {slot : Slot} {v : Value}
    (hslot : c.slots[k]? = some slot) (hv : row[k]? = some (some v)) :
    ∃ place cell, spec.index? slot.setting.rawName = some place ∧ cells[place]? = some cell ∧
      slot.setting.path.convert cell = .ok (some v) := by
  have hplace : (c.places spec)[k]? = some (slot, spec.index? slot.setting.rawName) := by
    rw [places, List.getElem?_map, hslot, Option.map_some]
  have hcell : convertCell cells slot (spec.index? slot.setting.rawName) = .ok (some v) :=
    eq_ok_of_mapM_eq_ok h hplace hv
  rw [convertCell] at hcell
  rcases hfound : (spec.index? slot.setting.rawName).bind (cells[·]?) with _ | cell
  · rw [hfound] at hcell
    exact absurd (Except.ok.inj hcell) (by simp)
  · rw [hfound] at hcell
    obtain ⟨place, hindex, hcells⟩ := Option.bind_eq_some_iff.1 hfound
    exact ⟨place, cell, hindex, hcells, mapError_eq_ok_iff.1 hcell⟩

/-- **A stream without faults reads by name** as long as the places hold. -/
theorem PlacesHold.readsByName (h : c.PlacesHold o folder) {rows : List OutputRow}
    (hrows : c.stream (o.source folder) = rows.map .ok) :
    ∃ blocks, rows = blocks.flatten ∧ c.ReadsByName o folder blocks := by
  obtain ⟨blocks, hblocks, hflat⟩ := stream_eq_map_ok_iff.1 hrows
  refine ⟨blocks, hflat, ?_⟩
  rw [ReadsByName, List.forall₂_iff_zip]
  refine ⟨hblocks.length_eq, fun {e} {block} hmem => ?_⟩
  obtain ⟨names, hnames, hplaces⟩ := h e (List.of_mem_zip hmem).1
  obtain ⟨table, htable, hconverted⟩ := List.forall₂_zip hblocks hmem
  refine ⟨names, table, hnames, htable, ?_⟩
  rw [List.forall₂_iff_zip]
  refine ⟨hconverted.length_eq, fun {cells} {row} hmem => ?_⟩
  intro k slot v hslot hv
  obtain ⟨place, cell, hindex, hcell, hconvert⟩ :=
    exists_cell_of_convertRow (List.forall₂_zip hconverted hmem) hslot hv
  -- there is a name above the cell, and so it is the right one
  have hlength : cells.length = names.length := CsvOptions.length_of_mem_itemRows hnames htable
    (List.mem_map_of_mem (List.of_mem_zip hmem).1)
  have hlt : place < names.length := hlength ▸ (List.getElem?_eq_some_iff.1 hcell).1
  have hname := List.getElem?_eq_getElem hlt
  refine ⟨place, cell, ?_, hcell, hconvert⟩
  rw [hname, hplaces slot (List.mem_of_getElem? hslot) place _ hindex hname]

/-- **Places hold where columns only came behind the others.** -/
theorem placesHold_of_prefix (h : ∀ e ∈ c.items.entries, ∃ names,
    o.headerNames? folder e.1 = some names ∧ e.2.names <+: names) : c.PlacesHold o folder := by
  intro e he
  obtain ⟨_, hnames, behind, rfl⟩ := h e he
  refine ⟨_, hnames, fun slot _ place name hindex hname => ?_⟩
  obtain ⟨hlt, hslot, -⟩ := List.findIdx?_eq_some_iff_getElem.1 hindex
  have hplace : e.2.names[place]? = some slot.setting.rawName := by
    rw [TableSpec.names, List.getElem?_map, List.getElem?_eq_getElem hlt, Option.map_some,
      of_decide_eq_true hslot]
  rw [List.getElem?_append_left (List.getElem?_eq_some_iff.1 hplace).1, hplace] at hname
  exact (Option.some.inj hname).symm

/-- The places of items that were just scanned hold. -/
theorem placesHold_of_columns
    (h : ∀ e ∈ c.items.entries, o.itemColumns folder e.1 = .ok e.2) : c.PlacesHold o folder :=
  placesHold_of_prefix fun e he =>
    ⟨e.2.names, CsvOptions.headerNames?_of_itemColumns (h e he), List.prefix_rfl⟩

end Config

/-! ### Whole readings -/

/-- **A reading that ends well reads by name,** if the places of a configuration that is used
again hold. Nothing is asked of a reading that does not use one again: it scans the items. -/
theorem Reader.readsByName_of_readInto {σ : Type} {r r' : Reader} {o : CsvOptions}
    {folder : Folder} {root : String} {items : List String} {sink : Sink σ} {s s' : σ} {n : ℕ}
    (hhold : ∀ c, r.cached = some c → c.isFor root items = true → c.PlacesHold o folder)
    (h : r.readInto (o.source folder) root items sink s = (.ok n, s', r')) :
    ∃ c schema t blocks, r'.cached = some c ∧ c.outputSchema = .ok schema ∧
      sink.start schema s = (.ok (), t) ∧ sink.Takes blocks.flatten t s' ∧
      c.stream (o.source folder) = blocks.flatten.map .ok ∧ c.ReadsByName o folder blocks := by
  obtain ⟨c, hfor, hread⟩ := readInto_eq_ok_iff.1 h
  obtain ⟨hcached, hused⟩ := configFor_eq_ok hfor
  have hplaces : c.PlacesHold o folder := by
    rcases hused with ⟨hkept, hmade⟩ | ⟨found, hscan, hfresh⟩
    · exact hhold c hkept hmade
    · refine Config.placesHold_of_columns fun e he => ?_
      rw [(Config.made_fresh hfresh).2] at he
      exact columns_of_mem_scanItems hscan he
  obtain ⟨schema, rows, t, hschema, hstream, hstart, htakes, -⟩ :=
    Config.readInto_eq_ok_iff.1 hread
  obtain ⟨blocks, rfl, hblocks⟩ := hplaces.readsByName hstream
  exact ⟨c, schema, t, blocks, hcached, hschema, hstart, htakes, hstream, hblocks⟩

/-! ### A file that has changed -/

/-- The file of sales as it was scanned: the order, and then the amount. -/
def salesItems : Items where
  entries := [("sales", ⟨[Column.ofType "order" .integer, Column.ofType "amount" .integer]⟩)]
  distinct := by simp

/-- The fresh configuration of the file of sales. -/
def salesConfig : Config where
  rootId := "sales"
  items := salesItems
  raw :=
    { union := salesItems.columns
      intersection := salesItems.columns
      distinct := by decide
      shared := List.Sublist.refl _ }
  settings := [⟨"order", ⟨"order", .integer⟩, .standard .integer, true⟩,
    ⟨"amount", ⟨"amount", .integer⟩, .standard .integer, true⟩]
  order := [0, 1]
  mode := .union
  keepUnknown := true
  anchor := 2

/-- The reader that has used it. -/
def salesReader : Reader := { cached := some salesConfig }

/-- The file of sales, with a column of notes behind the others. -/
def notedSales : Folder :=
  ({} : Folder).withFile "sales" (Utf8.encode "order,amount,note\n7,90,paid\n".toList)

/-- The file of sales, with its columns exchanged. -/
def exchangedSales : Folder :=
  ({} : Folder).withFile "sales" (Utf8.encode "amount,order\n90,7\n".toList)

namespace Reader

/-- A column that came behind the others is passed over. -/
theorem readsByName_of_readInto_noted :
    salesReader.readInto (({} : CsvOptions).source notedSales) "sales" ["sales"]
        (Sink.delimited 44) {} =
      (.ok 1, ⟨Utf8.encode "order,amount\n7,90\n".toList, 1⟩, salesReader) ∧
    ∃ c schema t blocks, salesReader.cached = some c ∧ c.outputSchema = .ok schema ∧
      (Sink.delimited 44).start schema {} = (.ok (), t) ∧
      (Sink.delimited 44).Takes blocks.flatten t
        ⟨Utf8.encode "order,amount\n7,90\n".toList, 1⟩ ∧
      c.stream (({} : CsvOptions).source notedSales) = blocks.flatten.map .ok ∧
      c.ReadsByName {} notedSales blocks := by
  have hread : salesReader.readInto (({} : CsvOptions).source notedSales) "sales" ["sales"]
      (Sink.delimited 44) {} =
        (.ok 1, ⟨Utf8.encode "order,amount\n7,90\n".toList, 1⟩, salesReader) := by
    decide +kernel
  refine ⟨hread, readsByName_of_readInto (fun c hc _ => ?_) hread⟩
  obtain rfl := Option.some.inj hc
  refine Config.placesHold_of_prefix fun e he => ?_
  obtain rfl := List.mem_singleton.1 he
  exact ⟨["order", "amount", "note"], by decide +kernel, by decide⟩

/-- **The amount comes out as the order:** the configuration is used again, the reading ends
well, and it has not read by name. -/
theorem not_readsByName_exchanged :
    Config.fresh "sales" salesItems .union = .ok salesConfig ∧
    salesReader.readInto (({} : CsvOptions).source exchangedSales) "sales" ["sales"]
        (Sink.delimited 44) {} =
      (.ok 1, ⟨Utf8.encode "order,amount\n90,7\n".toList, 1⟩, salesReader) ∧
    ¬∃ c blocks, salesReader.cached = some c ∧
      c.stream (({} : CsvOptions).source exchangedSales) = blocks.flatten.map .ok ∧
      c.ReadsByName {} exchangedSales blocks := by
  refine ⟨by decide +kernel, by decide +kernel, ?_⟩
  rintro ⟨c, blocks, hc, hstream, hblocks⟩
  obtain rfl := Option.some.inj hc
  have hrows : salesConfig.stream (({} : CsvOptions).source exchangedSales) =
      [.ok [some (.integer 90), some (.integer 7)]] := by decide +kernel
  have hnames : ({} : CsvOptions).headerNames? exchangedSales "sales" =
      some ["amount", "order"] := by decide +kernel
  have htable : ({} : CsvOptions).itemRows exchangedSales "sales" = .ok [.ok ["90", "7"]] := by
    decide +kernel
  -- there is one item with one row
  obtain ⟨block, _, ⟨names, table, hnames', htable', hbelow⟩, hnil, rfl⟩ :=
    List.forall₂_cons_left_iff.1 hblocks
  obtain rfl := List.forall₂_nil_left_iff.1 hnil
  obtain rfl : ["amount", "order"] = names := Option.some.inj (hnames.symm.trans hnames')
  obtain ⟨cells, rfl, hcells⟩ :=
    List.map_eq_singleton_iff.1 (Except.ok.inj (htable'.symm.trans htable))
  obtain rfl : cells = ["90", "7"] := Except.ok.inj hcells
  obtain ⟨row, _, hrow, hnil, rfl⟩ := List.forall₂_cons_left_iff.1 hbelow
  obtain rfl := List.forall₂_nil_left_iff.1 hnil
  have hfirst := Except.ok.inj (List.cons.inj (hrows.symm.trans hstream)).1
  -- the name of the first column stands second
  obtain ⟨place, cell, hname, hcell, hconvert⟩ := hrow 0 _ (.integer 90) rfl (hfirst ▸ rfl)
  match place, hname with
  | 1, _ =>
    obtain rfl := Option.some.inj hcell
    exact absurd hconvert (by decide +kernel)

end Reader

end OneTable
