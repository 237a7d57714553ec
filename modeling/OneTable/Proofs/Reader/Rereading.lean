import OneTable.Proofs.Calendar.Texts
import OneTable.Proofs.Csv.Lines
import OneTable.Proofs.Encoding.Utf8
import OneTable.Proofs.Guid
import OneTable.Proofs.Reader.Pouring
import OneTable.Proofs.Reader.Typed

/-!
# What was written is read back

A cell may say its value in many ways: a day in any of five orders, a truth value as a word or as a
digit, an identifier in braces. Its value is shown in one way only, and the file that is written
holds what is shown. So it has to be asked what is read from such a file, and for each type the
answer is that of its own texts: the value is read back, unless it is a float, whose text does not
tell zero from minus zero.

There is one exception. The text of an instant ends with its second, although an instant may be
written with the fraction of a second behind it, and the fraction is a part of the value. So of an
instant only its whole second is read back (`OneTable.Value.wholeSecond`), and two instants of the
same second cannot be told apart in what is written.

* `OneTable.readPresent_text`, `OneTable.readCell_text` – **the text of a value is read as the
  value**, for every type but floats, up to the fraction of a second;
* `OneTable.Sink.Holds` – a file holds rows;
* `OneTable.Config.holds_of_readInto` – a file that was written holds its rows;
* `OneTable.values_read_back` – **what is shown is read back,** from a text and from a file, and
  what is lost is the fraction of a second.
-/

namespace OneTable

/-! ### Values -/

/-- A value as its text tells it: an instant without the fraction of its second. -/
def Value.wholeSecond : Value → Value
  | .dateTime t => .dateTime t.wholeSecond
  | v => v

section Values

variable {v : Value}

/-- **A text tells its value** unless this is an instant with a fraction of a second. -/
theorem Value.wholeSecond_eq_self_iff :
    v.wholeSecond = v ↔ ∀ t, v = .dateTime t → t.time.nanosecond = 0 := by
  cases v with
  | dateTime t =>
    simp only [wholeSecond, Value.dateTime.injEq, forall_eq', t.wholeSecond_eq_self_iff]
  | _ => exact iff_of_true rfl fun t h => absurd h nofun

/-- The words for truth values that are shown are among those that are read. -/
theorem readBoolean?_booleanText (b : Bool) :
    readBoolean? (Text.trim (booleanText b).toList) = some b := by
  cases b
  · decide
  · decide

/-- **The text of a value is read as the value,** for every type but floats, up to the fraction of
a second. -/
theorem readPresent_text (hv : v.type ≠ .float) :
    readPresent v.text v.type = .ok v.wholeSecond := by
  cases v with
  | string s => rfl
  | integer n =>
    have hplain : Text.trim (integerText n.toInt) = integerText n.toInt :=
      Text.trim_eq_self_of_forall fun _ hc => isBlank_of_mem_integerText hc
    simp only [Value.text, Value.type, readPresent, String.toList_ofList, hplain,
      readInteger_integerText]
    rfl
  | float x => exact absurd rfl hv
  | boolean b =>
    simp only [Value.text, Value.type, readPresent, readBoolean?_booleanText]
    rfl
  | date d =>
    have hplain : Text.trim d.text = d.text :=
      Text.trim_eq_self_of_forall d.isBlank_of_mem_text
    simp only [Value.text, Value.type, readPresent, String.toList_ofList, hplain, readDate?_text]
    rfl
  | dateTime t =>
    simp only [Value.text, Value.type, readPresent, String.toList_ofList, t.trim_text,
      readDateTime?_text]
    rfl
  | guid g =>
    simp only [Value.text, Value.type, readPresent, String.toList_ofList, readGuid?_text]
    rfl

/-- No value but the empty text is shown as a missing one. -/
theorem text_ne_empty (hv : v.type ≠ .float) (hne : v ≠ .string "") : v.text ≠ "" := by
  have hnonempty : ∀ cs : List Char, cs ≠ [] → String.ofList cs ≠ "" := by
    intro cs hcs h
    exact hcs (String.ofList_eq_empty_iff.1 h)
  cases v with
  | string s => exact fun h => hne (congrArg Value.string h)
  | integer n => exact hnonempty _ (integerText_ne_nil _)
  | float x => exact absurd rfl hv
  | boolean b => cases b <;> decide
  | date d => exact hnonempty _ d.text_ne_nil
  | dateTime t =>
    exact hnonempty _ fun h => t.date.text_ne_nil (List.append_eq_nil_iff.1 h).1
  | guid g => exact hnonempty _ g.text_ne_nil

/-- **The cell of a value is read as the value,** up to the fraction of a second. -/
theorem readCell_text (hv : v.type ≠ .float) (hne : v ≠ .string "") :
    readCell v.text v.type = .ok (some v.wholeSecond) := by
  rw [readCell, if_neg (text_ne_empty hv hne), readPresent_text hv]
  rfl

/-- The empty text is not read from any cell. -/
theorem ne_empty_of_readCell {text : String} {t : ColumnType}
    (h : readCell text t = .ok (some v)) : v ≠ .string "" := by
  rintro rfl
  obtain rfl : .string = t := type_of_readCell h
  rw [readCell] at h
  split at h
  · exact absurd (Except.ok.inj h) (Option.some_ne_none _).symm
  · next hne => exact hne (Value.string.inj (Option.some.inj (Except.ok.inj h)))

/-- It does not come out of a conversion either. -/
theorem ConversionPath.ne_empty_of_convert {path : ConversionPath} {text : String}
    (h : path.convert text = .ok (some v)) : v ≠ .string "" := by
  rintro rfl
  have hdest : .string = path.destination := type_of_convert h
  rw [convert, ← hdest] at h
  split at h
  · exact absurd (Except.ok.inj h) (Option.some_ne_none _).symm
  · next hne => exact hne (Value.string.inj (Option.some.inj (Except.ok.inj h)))

end Values

/-! ### Files -/

/-- The texts of cells, if each of them has one. -/
def Csv.texts? (cells : List Csv.Cell) : Option (List (List Char)) :=
  cells.mapM Utf8.decode?

/-- The texts that the line of a row shows. -/
def Sink.shownTexts (row : OutputRow) : List (List Char) :=
  Csv.onLine (row.map fun cell => (cellText cell).toList)

/-- **A file holds rows:** below at most one row of names there is a row for each of them, which
shows the texts of its cells, and what is read from the text of a value is the value. -/
structure Sink.Holds (delimiter : UInt8) (bytes : List UInt8) (rows : List OutputRow) : Prop where
  /-- A first row that begins like a byte order mark may be passed over as one. -/
  shown : ∃ first, first.length ≤ 1 ∧
    (Csv.rowsOf delimiter bytes).map (fun row => Csv.texts? row.cells) =
      first ++ rows.map fun row => some (shownTexts row)
  values : ∀ row ∈ rows, ∀ v, some v ∈ row → v.type ≠ .float →
    readCell (cellText (some v)) v.type = .ok (some v.wholeSecond)
  missing : ∀ t, readCell (cellText none) t = .ok none

/-- The cells of a line are decoded to its texts. -/
theorem Csv.texts?_onLine (texts : List (List Char)) :
    texts? (onLine (texts.map Utf8.encode)) = some (onLine texts) := by
  have hcells : ∀ texts : List (List Char), texts? (texts.map Utf8.encode) = some texts := by
    intro texts
    induction texts with
    | nil => rfl
    | cons text texts ih =>
      rw [texts?] at ih
      rw [texts?, List.map_cons, List.mapM_cons, Utf8.decode?_encode, ih]
      rfl
  cases texts with
  | nil => rfl
  | cons text texts => exact hcells (text :: texts)

/-- The lines of a file that was written show the texts of its rows. -/
theorem Sink.exists_texts_tableBytes {delimiter : UInt8} (hsep : Csv.Separates delimiter)
    (schema : List OutputColumn) (rows : List OutputRow) :
    ∃ first, first.length ≤ 1 ∧
      (Csv.rowsOf delimiter (tableBytes delimiter schema rows)).map
        (fun row => Csv.texts? row.cells) = first ++ rows.map fun row => some (shownTexts row) := by
  obtain ⟨first, hfirst, hlength, -⟩ := Csv.map_cells_rowsOf_lines hsep
    ((schema.map OutputColumn.name).map fun t => Utf8.encode t.toList)
    (rows.map fun row => (row.map cellText).map fun t => Utf8.encode t.toList)
  rw [List.flatMap_map] at hfirst
  have htexts : ∀ row : OutputRow, Csv.texts? (Csv.onLine ((row.map cellText).map fun t =>
      Utf8.encode t.toList)) = some (shownTexts row) := by
    intro row
    rw [shownTexts, ← Csv.texts?_onLine, List.map_map, List.map_map]
    rfl
  refine ⟨first.map Csv.texts?, (List.length_map Csv.texts?).le.trans hlength, ?_⟩
  calc (Csv.rowsOf delimiter (tableBytes delimiter schema rows)).map
        (fun row => Csv.texts? row.cells)
      = ((Csv.rowsOf delimiter (tableBytes delimiter schema rows)).map Csv.Row.cells).map
          Csv.texts? := List.map_map.symm
    _ = first.map Csv.texts? ++ rows.map fun row => some (shownTexts row) := by
        refine (congrArg (List.map Csv.texts?) hfirst).trans ?_
        rw [List.map_append, List.map_map, List.map_map]
        exact congrArg _ (List.map_congr_left fun row _ => htexts row)

namespace Config

variable {c : Config} {source : Source} {delimiter : UInt8} {n : ℕ} {f : WrittenFile}

/-- A value in a row of the output was converted from a cell. -/
theorem exists_convert_of_mem_stream {row : OutputRow} (hrow : .ok row ∈ c.stream source)
    {v : Value} (hv : some v ∈ row) :
    ∃ slot ∈ c.slots, ∃ cell, slot.setting.path.convert cell = .ok (some v) := by
  obtain ⟨_, spec, _, cells, -, -, -, hfor⟩ := exists_row_of_mem_stream hrow nofun
  rw [eq_of_rowFor_eq_ok hfor] at hv
  obtain ⟨slot, hslot, hvalue⟩ := List.mem_map.1 hv
  obtain ⟨cell, -, hconvert⟩ := Slot.value?_eq_some_iff.1 hvalue
  exact ⟨slot, hslot, cell, hconvert⟩

/-- **A file that was written holds the rows that it was written from.** -/
theorem holds_of_readInto (hsep : Csv.Separates delimiter)
    (h : c.readInto source (Sink.delimited delimiter) {} = (.ok n, f)) :
    ∃ rows, c.stream source = rows.map .ok ∧ Sink.Holds delimiter f.bytes rows := by
  obtain ⟨schema, rows, -, hstream, rfl, -⟩ := readInto_delimited_eq_ok_iff.1 h
  refine ⟨rows, hstream, Sink.exists_texts_tableBytes hsep schema rows, ?_,
    fun t => readCell_empty t⟩
  intro row hrow v hv hfloat
  have hmem : .ok row ∈ c.stream source := hstream ▸ List.mem_map_of_mem hrow
  obtain ⟨slot, -, cell, hconvert⟩ := exists_convert_of_mem_stream hmem hv
  exact readCell_text hfloat (ConversionPath.ne_empty_of_convert hconvert)

end Config

/-! ### Both together -/

/-- **What is shown is read back.** A value that was read from a cell, and is not a float, is read
from its own text again, but for the fraction of a second; so it is the same value exactly if it is
no instant with such a fraction. A file whose delimiter tells cells apart holds the rows that it
was written from, with the same exception. -/
theorem values_read_back {delimiter : UInt8} (hsep : Csv.Separates delimiter) :
    (∀ text t v, t ≠ .float → readCell text t = .ok (some v) →
      readCell v.text t = .ok (some v.wholeSecond) ∧
      (readCell v.text t = .ok (some v) ↔ ∀ u, v = .dateTime u → u.time.nanosecond = 0)) ∧
    ∀ (c : Config) source n f, c.readInto source (Sink.delimited delimiter) {} = (.ok n, f) →
      ∃ rows, c.stream source = rows.map .ok ∧ Sink.Holds delimiter f.bytes rows := by
  refine ⟨fun text t v hfloat h => ?_, fun c source n f h => Config.holds_of_readInto hsep h⟩
  have hback : readCell v.text t = .ok (some v.wholeSecond) := by
    have htype := type_of_readCell h
    rw [← htype] at hfloat ⊢
    exact readCell_text hfloat (ne_empty_of_readCell h)
  refine ⟨hback, ?_⟩
  rw [hback, Except.ok.injEq, Option.some.injEq]
  exact Value.wholeSecond_eq_self_iff

/-! ### Half a second -/

/-- Half a second behind a whole one. -/
def halfSecond : DateTime :=
  ⟨⟨2024, 1, 2, by decide⟩, ⟨3, 4, 5, 500000000, by decide⟩⟩

/-- An order and its instant. -/
def timesItems : Items where
  entries := [("sales", ⟨[Column.ofType "order" .integer, Column.ofType "at" .dateTime]⟩)]
  distinct := by simp

/-- The fresh configuration of a file of orders with their instants. -/
def timesConfig : Config where
  rootId := "sales"
  items := timesItems
  raw :=
    { union := timesItems.columns
      intersection := timesItems.columns
      distinct := by decide
      shared := List.Sublist.refl _ }
  settings := [⟨"order", ⟨"order", .integer⟩, .standard .integer, true⟩,
    ⟨"at", ⟨"at", .dateTime⟩, .standard .dateTime, true⟩]
  order := [0, 1]
  mode := .union
  keepUnknown := true
  anchor := 2

/-- An order that came half a second behind a whole one. -/
def timesFolder : Folder :=
  ({} : Folder).withFile "sales" (Utf8.encode "order,at\n7,2024-01-02T03:04:05.5\n".toList)

/-- The half second is in the rows, and it is not in the file that is written from them. -/
theorem values_read_back_half :
    Csv.Separates 44 ∧
    timesConfig.readInto (({} : CsvOptions).source timesFolder) (Sink.delimited 44) {} =
      (.ok 1, ⟨Utf8.encode "order,at\n7,2024-01-02 03:04:05\n".toList, 1⟩) ∧
    timesConfig.stream (({} : CsvOptions).source timesFolder) =
      [.ok [some (.integer 7), some (.dateTime halfSecond)]] ∧
    (∃ rows, timesConfig.stream (({} : CsvOptions).source timesFolder) = rows.map .ok ∧
      Sink.Holds 44 (Utf8.encode "order,at\n7,2024-01-02 03:04:05\n".toList) rows) ∧
    readCell "2024-01-02T03:04:05.5" .dateTime = .ok (some (.dateTime halfSecond)) ∧
    readCell (Value.dateTime halfSecond).text .dateTime =
      .ok (some (.dateTime halfSecond.wholeSecond)) := by
  have hsep : Csv.Separates 44 := by decide
  have hread : timesConfig.readInto (({} : CsvOptions).source timesFolder) (Sink.delimited 44) {} =
      (.ok 1, ⟨Utf8.encode "order,at\n7,2024-01-02 03:04:05\n".toList, 1⟩) := by
    decide +kernel
  have hstream : timesConfig.stream (({} : CsvOptions).source timesFolder) =
      [.ok [some (.integer 7), some (.dateTime halfSecond)]] := by
    rw [Config.stream_eq_flatMap]
    decide +kernel
  have hcell : readCell "2024-01-02T03:04:05.5" .dateTime = .ok (some (.dateTime halfSecond)) := by
    decide +kernel
  obtain ⟨hvalues, hfiles⟩ := values_read_back hsep
  exact ⟨hsep, hread, hstream, hfiles _ _ _ _ hread, hcell, (hvalues _ _ _ (by decide) hcell).1⟩

/-- **Values are not always read back as they were:** the text of an instant does not tell the
half second that was read. -/
theorem not_read_back_half :
    ¬∀ text t v, t ≠ .float → readCell text t = .ok (some v) →
      readCell v.text t = .ok (some v) := by
  intro h
  have hcell : readCell "2024-01-02T03:04:05.5" .dateTime = .ok (some (.dateTime halfSecond)) := by
    decide +kernel
  have hback := h _ _ _ (by decide) hcell
  have hwhole : readCell (Value.dateTime halfSecond).text .dateTime =
      .ok (some (.dateTime halfSecond.wholeSecond)) := by
    decide +kernel
  rw [hwhole] at hback
  exact absurd (Except.ok.inj hback) (by decide)

end OneTable
