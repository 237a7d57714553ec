import OneTable.Proofs.Reader.Header

/-!
# What a scan looks at

The columns of a file are found in its header and in the rows of a sample, and a file may be much
longer than its sample. Whatever the rest of it holds, it should not matter.

It nearly does not. The rows come one by one, and a scan that has read enough of them notices so
when it holds the next one in its hands. This row is not looked into: its cells may say anything,
and they need not even be text. But it has been taken apart by then, and if it has another number
of cells than the header, the scan fails. So the result hangs on the header, on the sample, and on
whether the row behind the sample is one (`OneTable.CsvOptions.columnsOfTable_eq`); the rows behind
that one are never met.

* `OneTable.CsvOptions.sample` – the rows of a sample, with
  `OneTable.CsvOptions.faultBehind?` for the row behind them;
* `OneTable.CsvOptions.evidence_eq` – **evidence is gathered in the sample,** and then the row
  behind it is taken apart;
* `OneTable.CsvOptions.columnsOfTable_eq_ok_iff` – when a scan ends well, and with which columns;
* `OneTable.CsvOptions.columnsOf_of_sameSample` – **what two files of one sample come to;**
* `OneTable.CsvOptions.columnsOf_ne_behind` – a row behind the sample that is met.
-/

namespace OneTable.CsvOptions

variable {o : CsvOptions} {path : String}

/-! ### The sample and the row behind it -/

/-- A row of a table, or the fault in its place. -/
abbrev TableRow := Except Csv.RowFault (List Csv.Cell)

/-- The same options, with all rows in the sample. -/
def exhaustive (o : CsvOptions) : CsvOptions :=
  { o with sampleRows := 0 }

/-- **The rows of a sample:** so many of the first rows, or all of them. -/
def sample (o : CsvOptions) (rows : List TableRow) : List TableRow :=
  if o.sampleRows = 0 then rows else rows.take o.sampleRows

/-- The fault in a place of a table. -/
def faultAt? (rows : List TableRow) (place : ℕ) : Option Csv.RowFault :=
  match rows[place]? with
  | some (.error fault) => some fault
  | _ => none

/-- **The fault of the row behind the sample,** if there is such a row and it is no row of the
table. -/
def faultBehind? (o : CsvOptions) (rows : List TableRow) : Option Csv.RowFault :=
  if o.sampleRows = 0 then none else faultAt? rows o.sampleRows

/-- What is said about a fault in the row of a number. -/
def rowTrace (path : String) (number : ℕ) (fault : Csv.RowFault) : Trace :=
  (Trace.ofText fault.message).inside
    ("Reading row " ++ toString number ++ " of " ++ Text.shown path)

/-- A scan that has come to the end of its sample takes the row behind it apart. -/
def behind {α : Type} (o : CsvOptions) (path : String) (rows : List TableRow) (found : α) :
    Except Trace α :=
  (o.faultBehind? rows).elim (.ok found) fun fault =>
    .error (rowTrace path (o.sampleRows + 1) fault)

theorem behind_eq_ok_iff {α : Type} {rows : List TableRow} {found found' : α} :
    o.behind path rows found = .ok found' ↔ o.faultBehind? rows = none ∧ found = found' := by
  rw [behind]
  cases o.faultBehind? rows with
  | none => exact ⟨fun h => ⟨rfl, Except.ok.inj h⟩, fun h => congrArg Except.ok h.2⟩
  | some fault => exact ⟨fun h => absurd h error_ne_ok, fun h => absurd h.1.symm nofun⟩

/-! ### Gathering evidence -/

section Evidence

variable {processed : ℕ} {es found : List Evidence} {rows : List TableRow}

/-- One row of a sample of all rows. -/
theorem evidence_cons (hall : o.sampleRows = 0) (cells : List Csv.Cell) :
    o.evidence path processed es (.ok cells :: rows) = (o.texts cells).bind fun texts =>
      o.evidence path (processed + 1) (Evidence.addRow es texts) rows := by
  rw [evidence, if_neg fun h => absurd h.1 (by omega)]
  cases o.texts cells <;> rfl

/-- **A sample of all rows** ends well where all rows can be read, and its evidence is theirs. -/
theorem evidence_eq_ok_iff (hall : o.sampleRows = 0) :
    o.evidence path processed es rows = .ok found ↔
      ∃ table : List (List String), rows.map o.sourceRow = table.map .ok ∧
        found = table.foldl Evidence.addRow es := by
  induction rows generalizing processed es with
  | nil =>
    rw [evidence, List.map_nil]
    constructor
    · intro h
      exact ⟨[], rfl, (Except.ok.inj h).symm⟩
    · rintro ⟨table, htable, rfl⟩
      rw [List.map_eq_nil_iff.1 htable.symm]
      rfl
  | cons row rows ih =>
    rcases row with fault | cells
    · rw [evidence, List.map_cons]
      refine iff_of_false error_ne_ok ?_
      rintro ⟨table, htable, -⟩
      exact error_cons_ne_map_ok htable
    · rw [evidence_cons hall, List.map_cons]
      constructor
      · intro h
        obtain ⟨texts, htexts, h⟩ := bind_eq_ok_iff.1 h
        obtain ⟨table, hrows, hfound⟩ := ih.1 h
        exact ⟨texts :: table, by rw [hrows, sourceRow, htexts, List.map_cons], hfound⟩
      · rintro ⟨table, htable, rfl⟩
        obtain ⟨texts, table, rfl, htexts, hrows⟩ := List.map_eq_cons_iff.1 htable.symm
        exact bind_eq_ok_iff.2 ⟨texts, htexts.symm, ih.2 ⟨table, hrows.symm, rfl⟩⟩

/-- Evidence is gathered in what is left of the sample, and then the row behind it is taken
apart. -/
theorem evidence_eq_of_le (hlimit : o.sampleRows ≠ 0) (hle : processed ≤ o.sampleRows) :
    o.evidence path processed es rows =
      (o.exhaustive.evidence path processed es (rows.take (o.sampleRows - processed))).bind
        fun found => (faultAt? rows (o.sampleRows - processed)).elim (.ok found) fun fault =>
          .error (rowTrace path (o.sampleRows + 1) fault) := by
  have hall : o.exhaustive.sampleRows = 0 := rfl
  induction rows generalizing processed es with
  | nil =>
    rw [List.take_nil]
    rfl
  | cons row rows ih =>
    rcases Nat.eq_or_lt_of_le hle with rfl | hlt
    · -- the sample has come to its end, and this is the row behind it
      rw [Nat.sub_self, List.take_zero]
      rcases row with fault | cells
      · rfl
      · unfold evidence
        exact if_pos ⟨Nat.pos_of_ne_zero hlimit, Nat.le_refl _⟩
    · obtain ⟨left, hleft⟩ : ∃ left, o.sampleRows - processed = left + 1 :=
        ⟨o.sampleRows - processed - 1, by omega⟩
      have hnext : o.sampleRows - (processed + 1) = left := by omega
      rw [hleft, List.take_succ_cons]
      rcases row with fault | cells
      · rfl
      · have htexts : o.exhaustive.texts cells = o.texts cells := rfl
        rw [evidence, if_neg fun h => absurd h.2 (by omega), evidence_cons hall, htexts]
        rcases o.texts cells with trace | texts
        · rfl
        · exact hnext ▸ ih (by omega)

/-- **Evidence is gathered in the sample, and then the row behind it is taken apart.** -/
theorem evidence_eq : o.evidence path 0 es rows =
    (o.exhaustive.evidence path 0 es (o.sample rows)).bind (o.behind path rows) := by
  by_cases hall : o.sampleRows = 0
  · have hexhaustive : o.exhaustive = o := by rw [exhaustive, ← hall]
    have hbehind : o.behind path rows = Except.ok (α := List Evidence) := by
      funext found
      rw [behind, faultBehind?, if_pos hall]
      rfl
    rw [hexhaustive, sample, if_pos hall, hbehind]
    cases o.evidence path 0 es rows <;> rfl
  · have hbehind : o.behind path rows = fun found : List Evidence =>
        (faultAt? rows o.sampleRows).elim (.ok found) fun fault =>
          .error (rowTrace path (o.sampleRows + 1) fault) := by
      funext found
      rw [behind, faultBehind?, if_neg hall]
    rw [sample, if_neg hall, hbehind]
    exact evidence_eq_of_le hall (Nat.zero_le _)

end Evidence

/-! ### The columns of a table -/

section Columns

variable {t t' : Csv.Table} {spec : TableSpec}

/-- The columns that a sample comes to, as if there were no rows behind it. -/
def columnsOfSample (o : CsvOptions) (path : String) (t : Csv.Table) : Except Trace TableSpec :=
  o.exhaustive.columnsOfTable path ⟨t.header, o.sample t.rows⟩

/-- **The columns of a table are those of its sample,** unless the row behind the sample is no row
of the table. -/
theorem columnsOfTable_eq : o.columnsOfTable path t =
    (o.columnsOfSample path t).bind (o.behind path t.rows) := by
  have htexts : o.exhaustive.texts = o.texts := rfl
  rw [columnsOfSample, columnsOfTable, columnsOfTable, htexts]
  rcases o.texts t.header with trace | header
  · rfl
  · change Except.bind (o.evidence path 0 (header.map fun _ => Evidence.none) t.rows) _ =
      Except.bind (Except.bind (o.exhaustive.evidence path 0 _ (o.sample t.rows)) _) _
    rw [evidence_eq]
    rcases o.exhaustive.evidence path 0 (header.map fun _ => Evidence.none) (o.sample t.rows)
      with trace | found
    · rfl
    · change Except.bind (o.behind path t.rows found) _ = o.behind path t.rows _
      rw [behind, behind]
      cases o.faultBehind? t.rows <;> rfl

/-- **A scan ends well** where the header and the rows of the sample can be read and the row behind
the sample is none or a row of the table; then the columns are those of the header and of what the
sample says about their types. -/
theorem columnsOfTable_eq_ok_iff : o.columnsOfTable path t = .ok spec ↔
    ∃ (header : List String) (table : List (List String)), o.texts t.header = .ok header ∧
      (o.sample t.rows).map o.sourceRow = table.map .ok ∧ o.faultBehind? t.rows = none ∧
      spec = TableSpec.ofHeader header ((table.foldl Evidence.addRow
        (header.map fun _ => Evidence.none)).map Evidence.type?) := by
  have hall : o.exhaustive.sampleRows = 0 := rfl
  have htexts : o.exhaustive.texts = o.texts := rfl
  have hsourceRow : o.exhaustive.sourceRow = o.sourceRow := by
    funext row
    cases row <;> rfl
  constructor
  · intro h
    obtain ⟨header, hheader, h⟩ := bind_eq_ok_iff.1 h
    obtain ⟨found, hfound, h⟩ := bind_eq_ok_iff.1 h
    rw [evidence_eq] at hfound
    obtain ⟨_, hevidence, hbehind⟩ := bind_eq_ok_iff.1 hfound
    obtain ⟨hfault, rfl⟩ := behind_eq_ok_iff.1 hbehind
    obtain ⟨table, hrows, rfl⟩ := (evidence_eq_ok_iff hall).1 hevidence
    exact ⟨header, table, mapError_eq_ok_iff.1 hheader, hsourceRow ▸ hrows, hfault,
      (Except.ok.inj h).symm⟩
  · rintro ⟨header, table, hheader, hrows, hfault, rfl⟩
    refine bind_eq_ok_iff.2 ⟨header, mapError_eq_ok_iff.2 hheader, bind_eq_ok_iff.2
      ⟨table.foldl Evidence.addRow (header.map fun _ => Evidence.none), ?_, rfl⟩⟩
    rw [evidence_eq]
    exact bind_eq_ok_iff.2 ⟨_, (evidence_eq_ok_iff hall).2 ⟨table, hsourceRow ▸ hrows, rfl⟩,
      behind_eq_ok_iff.2 ⟨hfault, rfl⟩⟩

end Columns

/-! ### Two files of one sample -/

section Files

variable {folder folder' : Folder} {bytes bytes' : List UInt8}

/-- The columns of a file are those of the table in its bytes. -/
theorem columnsOf_eq (h : folder.read path = .ok bytes) :
    o.columnsOf folder path = o.columnsOfTable path (o.table path bytes) := by
  rw [columnsOf, bytesOf_eq_ok_iff.2 h]

/-- A file that has columns could be read, and they are those of its table. -/
theorem columnsOf_eq_ok_iff {spec : TableSpec} : o.columnsOf folder path = .ok spec ↔
    ∃ bytes, folder.read path = .ok bytes ∧
      o.columnsOfTable path (o.table path bytes) = .ok spec := by
  constructor
  · intro h
    rw [columnsOf] at h
    split at h
    · exact absurd h error_ne_ok
    · next bytes hbytes => exact ⟨bytes, bytesOf_eq_ok_iff.1 hbytes, h⟩
  · rintro ⟨bytes, hread, h⟩
    exact (columnsOf_eq hread).trans h

/-- **Two files have one sample:** their headers are the same, and so are the rows of the sample. -/
structure SameSample (o : CsvOptions) (path : String) (bytes bytes' : List UInt8) : Prop where
  header : (o.table path bytes).header = (o.table path bytes').header
  rows : o.sample (o.table path bytes).rows = o.sample (o.table path bytes').rows

theorem SameSample.columnsOfSample_eq (h : o.SameSample path bytes bytes') :
    o.columnsOfSample path (o.table path bytes) = o.columnsOfSample path (o.table path bytes') := by
  rw [columnsOfSample, columnsOfSample, h.header, h.rows]

/-- **What two files of one sample come to.** If the sample itself cannot be read, both scans fail
for the same reason. Else they come to the same as long as the row behind the sample does the same
in both, and where one of them finds columns, the other one finds the same columns unless the row
behind its sample is no row of the table; then it fails at this row. Nothing else of the two files
matters. -/
theorem columnsOf_of_sameSample (hread : folder.read path = .ok bytes)
    (hread' : folder'.read path = .ok bytes') (hsame : o.SameSample path bytes bytes') :
    (∀ trace, o.columnsOfSample path (o.table path bytes) = .error trace →
      o.columnsOf folder path = .error trace ∧ o.columnsOf folder' path = .error trace) ∧
    (o.faultBehind? (o.table path bytes).rows = o.faultBehind? (o.table path bytes').rows →
      o.columnsOf folder path = o.columnsOf folder' path) ∧
    ∀ spec, o.columnsOf folder path = .ok spec →
      o.faultBehind? (o.table path bytes).rows = none ∧
      (o.columnsOf folder' path = .ok spec ↔ o.faultBehind? (o.table path bytes').rows = none) ∧
      ∀ fault, o.faultBehind? (o.table path bytes').rows = some fault →
        o.columnsOf folder' path = .error (rowTrace path (o.sampleRows + 1) fault) := by
  rw [columnsOf_eq hread, columnsOf_eq hread', columnsOfTable_eq, columnsOfTable_eq,
    ← hsame.columnsOfSample_eq]
  refine ⟨fun trace htrace => ?_, fun hfault => ?_, fun spec hspec => ?_⟩
  · rw [htrace]
    exact ⟨rfl, rfl⟩
  · have hbehind : o.behind path (o.table path bytes).rows =
        o.behind (α := TableSpec) path (o.table path bytes').rows := by
      funext found
      rw [behind, behind, hfault]
    rw [hbehind]
  · obtain ⟨spec', hsample, hbehind⟩ := bind_eq_ok_iff.1 hspec
    obtain ⟨hnone, rfl⟩ := behind_eq_ok_iff.1 hbehind
    rw [hsample]
    refine ⟨hnone, ?_, fun fault hfault => ?_⟩
    · change o.behind path (o.table path bytes').rows spec' = .ok spec' ↔ _
      rw [behind_eq_ok_iff, and_iff_left rfl]
    · change o.behind path (o.table path bytes').rows spec' = _
      rw [behind, hfault]
      rfl

end Files

/-! ### Files of one row that are followed by something else -/

/-- One row is looked at. -/
def oneRow : CsvOptions where
  sampleRows := 1

/-- A file of one row. -/
def shortFile : List UInt8 :=
  Utf8.encode "order\n7\n".toList

/-- The same row, and behind it a cell that is no text, and a row of two cells. -/
def longFile : List UInt8 :=
  shortFile ++ 0xFF :: Utf8.encode "\n8,9\n".toList

/-- The same row, and a row of two cells right behind it. -/
def raggedFile : List UInt8 :=
  shortFile ++ Utf8.encode "8,9\n".toList

/-- A folder of one file. -/
def salesFolder (bytes : List UInt8) : Folder :=
  ({} : Folder).withFile "sales" bytes

theorem sameSample_longFile : oneRow.SameSample "sales" shortFile longFile := by
  constructor <;> decide +kernel

theorem sameSample_raggedFile : oneRow.SameSample "sales" shortFile raggedFile := by
  constructor <;> decide +kernel

/-- The row behind the sample is no text, and the one behind that is too long: both are never
looked at. -/
theorem columnsOf_of_sameSample_long :
    oneRow.SameSample "sales" shortFile longFile ∧
    oneRow.faultBehind? (oneRow.table "sales" shortFile).rows =
      oneRow.faultBehind? (oneRow.table "sales" longFile).rows ∧
    oneRow.columnsOf (salesFolder shortFile) "sales" =
      oneRow.columnsOf (salesFolder longFile) "sales" := by
  have hfault : oneRow.faultBehind? (oneRow.table "sales" shortFile).rows =
      oneRow.faultBehind? (oneRow.table "sales" longFile).rows := by decide +kernel
  have hread : ∀ bytes, (salesFolder bytes).read "sales" = .ok bytes := fun _ => rfl
  exact ⟨sameSample_longFile, hfault, (columnsOf_of_sameSample (hread shortFile) (hread longFile)
    sameSample_longFile).2.1 hfault⟩

/-- **A row behind the sample that is met.** The scan has read the row that it was asked for, and it
fails all the same: the next row, which it holds by then, is too long. -/
theorem columnsOf_ne_behind : ¬ ∀ (o : CsvOptions) (folder folder' : Folder) (path : String)
    (bytes bytes' : List UInt8), o.sampleRows ≠ 0 → folder.read path = .ok bytes →
      folder'.read path = .ok bytes' → o.SameSample path bytes bytes' →
      o.columnsOf folder path = o.columnsOf folder' path := by
  intro h
  have hsame := h oneRow (salesFolder shortFile) (salesFolder raggedFile) "sales" shortFile
    raggedFile Nat.one_ne_zero rfl rfl sameSample_raggedFile
  have hfound : (oneRow.columnsOf (salesFolder shortFile) "sales").toBool = true := by
    decide +kernel
  have hlost : (oneRow.columnsOf (salesFolder raggedFile) "sales").toBool = false := by
    decide +kernel
  rw [hsame, hlost] at hfound
  exact absurd hfound Bool.false_ne_true

end OneTable.CsvOptions
