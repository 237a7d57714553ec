import OneTable.Csv.Table
import OneTable.Delimiter
import OneTable.Encoding.Basic
import OneTable.Folder
import OneTable.Inference
import OneTable.Source.Basic
import OneTable.Text.Shown

/-!
# Delimited files as a source

An item is the path of a delimited file. Its columns are named by the header, and their
types are recognised from the rows of a sample. A sample ends at the first row behind
its last one, so a row that cannot be taken apart is met one row beyond the sample.

* `OneTable.CsvOptions` – how files are read;
* `OneTable.CsvOptions.columnsOf` – the columns of a file, with their types;
* `OneTable.CsvOptions.rowsOf` – the rows of a file;
* `OneTable.CsvOptions.source` – the files of a folder as a source.
-/

namespace OneTable

/-- The number of rows in a sample, if nobody asks for another one. -/
def CsvOptions.standardSample : Nat := 2000

/-- How files are read. -/
structure CsvOptions where
  /-- The delimiter; it follows from the path when none is named. -/
  delimiter : Option UInt8 := none
  encoding : Encoding := Encoding.unicode
  /-- The number of rows in a sample; zero stands for all rows. -/
  sampleRows : Nat := CsvOptions.standardSample

namespace CsvOptions

/-- The table in the bytes of the file of a path. -/
def table (o : CsvOptions) (path : String) (bytes : List UInt8) : Csv.Table :=
  Csv.Table.ofBytes (Delimiter.ofInput path o.delimiter) bytes

/-- The texts of a row. -/
def texts (o : CsvOptions) (cells : List Csv.Cell) : SourceRow :=
  (cells.mapM o.encoding.decode).mapError Trace.ofText

/-! ### Failures -/

/-- The failure to open a file. -/
def openTrace (path : String) (fault : FileFault) : Trace :=
  (Trace.ofText fault.message).inside ("Opening input file " ++ Text.shown path)

/-- The failure to read from something that could be opened. The reader of rows reports
it in its own name, and what it found behind it. -/
def readTrace (fault : FileFault) : Trace :=
  ⟨fault.message, [fault.message]⟩

/-- The bytes of a file. A folder can be opened, but it cannot be read. -/
def bytesOf (folder : Folder) (path reading : String) : Except Trace (List UInt8) :=
  match folder.read path with
  | .ok bytes => .ok bytes
  | .error .isFolder => .error ((readTrace .isFolder).inside reading)
  | .error fault => .error (openTrace path fault)

/-! ### Columns -/

/-- The evidence in the rows of a sample. -/
def evidence (o : CsvOptions) (path : String) (processed : Nat) (es : List Evidence) :
    List (Except Csv.RowFault (List Csv.Cell)) → Except Trace (List Evidence)
  | [] => .ok es
  | .error fault :: _ =>
    .error ((Trace.ofText fault.message).inside
      ("Reading row " ++ toString (processed + 1) ++ " of " ++ Text.shown path))
  | .ok cells :: rows =>
    if 0 < o.sampleRows ∧ o.sampleRows ≤ processed then .ok es
    else
      match o.texts cells with
      | .error trace => .error trace
      | .ok texts => evidence o path (processed + 1) (Evidence.addRow es texts) rows

/-- The columns of a table. -/
def columnsOfTable (o : CsvOptions) (path : String) (t : Csv.Table) : Except Trace TableSpec := do
  let header ← (o.texts t.header).mapError (·.inside ("Reading headers from " ++ Text.shown path))
  let es ← o.evidence path 0 (header.map fun _ => Evidence.none) t.rows
  return TableSpec.ofHeader header (es.map Evidence.type?)

/-- **The columns of a file,** with the types its sample comes to. -/
def columnsOf (o : CsvOptions) (folder : Folder) (path : String) : Except Trace TableSpec :=
  match bytesOf folder path ("Reading headers from " ++ Text.shown path) with
  | .error trace => .error trace
  | .ok bytes => o.columnsOfTable path (o.table path bytes)

/-! ### Rows -/

/-- A row of a table. -/
def sourceRow (o : CsvOptions) : Except Csv.RowFault (List Csv.Cell) → SourceRow
  | .error fault => .error ((Trace.ofText fault.message).inside "Reading CSV record")
  | .ok cells => o.texts cells

/-- **The rows of a file.** A folder has a single row, which fails. -/
def rowsOf (o : CsvOptions) (folder : Folder) (path : String) : Except Trace (List SourceRow) :=
  match folder.read path with
  | .ok bytes => .ok ((o.table path bytes).rows.map o.sourceRow)
  | .error .isFolder => .ok [.error ((readTrace .isFolder).inside "Reading CSV record")]
  | .error fault => .error (openTrace path fault)

/-! ### The source -/

/-- An item may not be the standard input, which can be read only once. -/
def checkItem (item : String) : Except Trace Unit :=
  if FilePath.isDash item then
    .error (Trace.ofText
      "Standard input ('-') cannot be used as an item; pass a file path instead")
  else .ok ()

/-- The columns of an item. -/
def itemColumns (o : CsvOptions) (folder : Folder) (item : String) : Except Trace TableSpec :=
  ((checkItem item).bind fun _ => o.columnsOf folder item).mapError
    (·.inside ("Inferring column types of " ++ item))

/-- The rows of an item. -/
def itemRows (o : CsvOptions) (folder : Folder) (item : String) :
    Except Trace (List SourceRow) :=
  (checkItem item).bind fun _ => o.rowsOf folder item

/-- **The files of a folder as a source.** -/
def source (o : CsvOptions) (folder : Folder) : Source :=
  ⟨o.itemColumns folder, o.itemRows folder⟩

end CsvOptions

end OneTable
