import Mathlib.Data.Set.Basic
import OneTable.Proofs.Conversion
import OneTable.Proofs.Reader.Evidence

/-!
# What the type of a column is

A scan strikes types out, cell after cell and row after row. This says what comes of it, and no
scan is mentioned: the type of a column is settled by the *set* of the words in it, where a word is
a cell without the blanks around it, if anything is left of it. So it does not matter in which
order the words stand in the column, how often, and between which blank cells, and it does not
matter at all what stands in the other columns.

A column without words has no type. The type of any other column is the first one, from truth
values to identifiers, whose reader takes all words; where there is none the column is text. Truth
values are the one type whose reader is not believed in everything: it takes the digits zero and
one, but columns of these digits are to be integers.

* `OneTable.ColumnType.Takes` – the words that the reader of a type takes, with
  `OneTable.ColumnType.accepts_iff_takes`;
* `OneTable.Recognised` – the type of a set of words, with `OneTable.existsUnique_recognised`;
* `OneTable.Evidence.recognised_type?` – what a scan strikes out leaves this type;
* `OneTable.CsvOptions.columnsOf_recognises` – **the columns of a file,** from the words in its
  sample.
-/

namespace OneTable

/-! ### The words of a type -/

namespace ColumnType

variable {w : List Char}

/-- **The words that the reader of a type takes.** Zero and one are no words for truth values
here. -/
def Takes : ColumnType → List Char → Prop
  | .string, _ => True
  | .boolean, w => (∃ b, readBoolean? w = some b) ∧ w ≠ ['0'] ∧ w ≠ ['1']
  | .integer, w => ∃ n, readInteger w = .ok n
  | .float, w => ∃ x, readFloat w = .ok x
  | .date, w => ∃ d, readDate? w = some d
  | .dateTime, w => ∃ i, readDateTime? w = some i
  | .guid, w => ∃ g, readGuid? w = some g

/-- A letter in lower case is no digit, so a digit was one before. -/
theorem toLower_eq_iff {c d : Char} (hlower : d.val < 'a'.val) (hupper : d.val < 'A'.val) :
    c.toLower = d ↔ c = d := by
  delta Char.toLower
  split
  · next hc =>
    refine iff_of_false ?_ ?_
    · rintro rfl
      have hge := UInt32.le_iff_toNat_le.1 hc.1
      have hle := UInt32.le_iff_toNat_le.1 hc.2
      have hlt := UInt32.lt_iff_toNat_lt.1 hlower
      simp only [UInt32.toNat_add, Char.toNat_val] at hge hle hlt
      simp only [Char.reduceToNat, UInt32.reduceSub, UInt32.reduceToNat, Char.reduceVal]
        at hge hle hlt
      omega
    · rintro rfl
      exact absurd hupper (UInt32.not_lt.2 hc.1)
  · rfl

/-- Lower case makes no digits. -/
theorem ofList_lower_eq_iff {d : Char} (hlower : d.val < 'a'.val) (hupper : d.val < 'A'.val) :
    String.ofList (Text.lower w) = String.ofList [d] ↔ w = [d] := by
  rw [String.ofList_inj]
  constructor
  · intro h
    obtain ⟨c, cs, rfl, hc, hcs⟩ := List.map_eq_cons_iff.1 h
    rw [(toLower_eq_iff hlower hupper).1 hc, List.map_eq_nil_iff.1 hcs]
  · rintro rfl
    exact congrArg (· :: []) ((toLower_eq_iff hlower hupper).2 rfl)

/-- **The words for truth values,** but for the digits. -/
theorem accepts_boolean_iff : boolean.accepts w = true ↔ boolean.Takes w := by
  have hzero : String.ofList (Text.lower w) = "0" ↔ w = ['0'] :=
    ofList_lower_eq_iff (by decide) (by decide)
  have hone : String.ofList (Text.lower w) = "1" ↔ w = ['1'] :=
    ofList_lower_eq_iff (by decide) (by decide)
  have hread : (∃ b, readBoolean? w = some b) ↔
      String.ofList (Text.lower w) ∈ ["true", "t", "yes", "y", "1"] ∨
      String.ofList (Text.lower w) ∈ ["false", "f", "no", "n", "0"] := by
    rw [readBoolean?]
    split
    · next h => simp [h]
    · next h =>
      split
      · next h' => simp [h']
      · next h' => simp [h, h']
  rw [accepts, List.contains_iff_mem, Takes, hread, ne_eq, ne_eq, ← hzero, ← hone]
  generalize String.ofList (Text.lower w) = word
  simp only [truthWords, List.mem_cons, List.not_mem_nil, or_false]
  constructor
  · rintro (rfl | rfl | rfl | rfl | rfl | rfl | rfl | rfl) <;> simp
  · grind

/-- **A cell belongs to a type** if the reader of the type takes it. -/
theorem accepts_iff_takes {t : ColumnType} : t.accepts w = true ↔ t.Takes w := by
  cases t with
  | string => exact iff_of_true rfl trivial
  | boolean => exact accepts_boolean_iff
  | integer =>
    rw [accepts, Takes]
    cases readInteger w <;> simp [Except.toBool]
  | float =>
    rw [accepts, Takes]
    cases readFloat w <;> simp [Except.toBool]
  | date => exact Option.isSome_iff_exists
  | dateTime => exact Option.isSome_iff_exists
  | guid => exact Option.isSome_iff_exists

end ColumnType

/-! ### The type of a set of words -/

section Recognised

variable {ws : Set (List Char)}

/-- **The type of a set of words,** if it has one. -/
inductive Recognised (ws : Set (List Char)) : Option ColumnType → Prop
  /-- Without words there is no type. -/
  | untyped (h : ws = ∅) : Recognised ws none
  /-- The first type whose reader takes all words. -/
  | first {before after : List ColumnType} {t : ColumnType} (hwords : ws.Nonempty)
      (h : ColumnType.recognised = before ++ t :: after)
      (hbefore : ∀ u ∈ before, ¬ ∀ w ∈ ws, u.Takes w) (htakes : ∀ w ∈ ws, t.Takes w) :
      Recognised ws (some t)
  /-- No reader takes all words. -/
  | text (hwords : ws.Nonempty)
      (h : ∀ u ∈ ColumnType.recognised, ¬ ∀ w ∈ ws, u.Takes w) :
      Recognised ws (some .string)

open scoped Classical in
/-- The type of a set of words, if it is searched for. -/
theorem recognised_iff {found : Option ColumnType} : Recognised ws found ↔
    found = if ws = ∅ then none else
      some ((ColumnType.recognised.find? fun t => ∀ w ∈ ws, t.Takes w).getD .string) := by
  constructor
  · rintro (h | ⟨hwords, h, hbefore, htakes⟩ | ⟨hwords, h⟩)
    · rw [if_pos h]
    · rw [if_neg hwords.ne_empty]
      have hfind := List.find?_eq_some_iff_append
        (p := fun t : ColumnType => decide (∀ w ∈ ws, t.Takes w)) |>.2
        ⟨decide_eq_true htakes, _, _, h, fun u hu => by simpa using hbefore u hu⟩
      exact congrArg (fun t : Option ColumnType => some (t.getD .string)) hfind.symm
    · rw [if_neg hwords.ne_empty]
      have hfind := List.find?_eq_none
        (p := fun t : ColumnType => decide (∀ w ∈ ws, t.Takes w)) |>.2
        fun u hu => by simpa using h u hu
      exact congrArg (fun t : Option ColumnType => some (t.getD .string)) hfind.symm
  · rintro rfl
    split
    · next h => exact .untyped h
    · next h =>
      have hwords := Set.nonempty_iff_ne_empty.2 h
      cases hfind : ColumnType.recognised.find? fun t => ∀ w ∈ ws, t.Takes w with
      | none => exact .text hwords fun u hu => by simpa using List.find?_eq_none.1 hfind u hu
      | some t =>
        obtain ⟨htakes, before, after, hlist, hbefore⟩ := List.find?_eq_some_iff_append.1 hfind
        exact .first hwords hlist (fun u hu => by simpa using hbefore u hu)
          (of_decide_eq_true htakes)

/-- **Every set of words has one type,** or none. -/
theorem existsUnique_recognised (ws : Set (List Char)) : ∃! found, Recognised ws found := by
  classical
  simp only [recognised_iff]
  exact existsUnique_eq

end Recognised

/-! ### Columns of cells -/

/-- **The words in a column:** its cells without the blanks around them, as far as something is
left. -/
def wordsAt (table : List (List String)) (place : ℕ) : Set (List Char) :=
  {w | w ≠ [] ∧ ∃ cells ∈ table, ∃ cell, cells[place]? = some cell ∧ Text.trim cell.toList = w}

namespace Evidence

variable {table : List (List String)} {place : ℕ}

theorem mem_speaking_cellsAt_iff {w : List Char} :
    w ∈ speaking (cellsAt table place) ↔ w ∈ wordsAt table place := by
  simp only [speaking, cellsAt, wordsAt, List.mem_filter, List.mem_map, List.mem_filterMap,
    Set.mem_ofPred_eq, decide_eq_true_eq]
  constructor
  · rintro ⟨⟨cell, ⟨cells, hcells, hcell⟩, rfl⟩, hne⟩
    exact ⟨hne, cells, hcells, cell, hcell, rfl⟩
  · rintro ⟨hne, cells, hcells, cell, hcell, rfl⟩
    exact ⟨⟨cell, ⟨cells, hcells, hcell⟩, rfl⟩, hne⟩

/-- **What a scan strikes out leaves the type of the words in the column.** -/
theorem recognised_type? : Recognised (wordsAt table place)
    ((cellsAt table place).foldl add none).type? := by
  classical
  have hall : ∀ t : ColumnType, ((speaking (cellsAt table place)).all t.accepts = true) =
      ∀ w ∈ wordsAt table place, t.Takes w := fun t => by
    simp only [List.all_eq_true, mem_speaking_cellsAt_iff, ColumnType.accepts_iff_takes]
  have hempty : (speaking (cellsAt table place)).isEmpty = decide (wordsAt table place = ∅) := by
    rw [Bool.eq_iff_iff, List.isEmpty_iff, decide_eq_true_iff, List.eq_nil_iff_forall_not_mem,
      Set.eq_empty_iff_forall_notMem]
    simp only [mem_speaking_cellsAt_iff]
  rw [recognised_iff, foldl_add, type?, hempty]
  by_cases h : wordsAt table place = ∅
  · simp [h, none]
  · simp only [h, none, ← hall, Bool.decide_eq_true, ← List.head?_filter, decide_false,
      Bool.not_false, Bool.or_true, if_true, if_false, List.headD_eq_head?_getD]

end Evidence

/-! ### The columns of a file -/

/-- A spec is that of a header if its names are, and then a column is what was found at its
place. -/
theorem TableSpec.eq_ofHeader_iff {spec : TableSpec} {header : List String}
    {types : List (Option ColumnType)} : spec = ofHeader header types ↔
      spec.names = resolveNames header ∧ ∀ (place : ℕ) (column : Column),
        spec.columns[place]? = some column →
          column = Column.ofEvidence column.name types[place]?.join := by
  constructor
  · rintro rfl
    refine ⟨names_ofHeader header types, fun place column hcolumn => ?_⟩
    rw [ofHeader, getElem?_pair] at hcolumn
    obtain ⟨name, -, rfl⟩ := Option.map_eq_some_iff.1 hcolumn
    rw [Column.name_ofEvidence]
  · rintro ⟨hnames, hcolumns⟩
    refine congrArg TableSpec.mk (List.ext_getElem? fun place => ?_)
    rw [getElem?_pair, ← hnames, names, List.getElem?_map]
    cases hcolumn : spec.columns[place]? with
    | none => rfl
    | some column => exact congrArg some (hcolumns place column hcolumn)

namespace CsvOptions

variable {table : List (List String)} {header : List String} {place : ℕ}

/-- **The type that is found at a place** is that of the words at this place. -/
theorem recognised_type?_at (hplace : place < header.length) :
    Recognised (wordsAt table place) (((table.foldl Evidence.addRow
      (header.map fun _ => Evidence.none)).map Evidence.type?)[place]?).join := by
  rw [List.getElem?_map, Evidence.getElem?_foldl_addRow, List.getElem?_map,
    List.getElem?_eq_getElem hplace]
  exact Evidence.recognised_type?

/-- **The columns of a file.** A scan ends well where the header and the rows of the sample can be
read and the row behind the sample is none or a row of the table. Then its columns have the names
of the header, and the type of every column is that of the words in the sample at its place: the
first type whose reader takes them all, text if there is none, and no type if there are no
words. -/
theorem columnsOf_recognises (o : CsvOptions) (folder : Folder) (path : String) :
    (∀ ws : Set (List Char), ∃! found, Recognised ws found) ∧
    ∀ spec : TableSpec, o.columnsOf folder path = .ok spec ↔
      ∃ (bytes : List UInt8) (header : List String) (table : List (List String)),
        folder.read path = .ok bytes ∧
        o.texts (o.table path bytes).header = .ok header ∧
        (o.sample (o.table path bytes).rows).map o.sourceRow = table.map .ok ∧
        o.faultBehind? (o.table path bytes).rows = none ∧
        spec.names = resolveNames header ∧
        ∀ (place : ℕ) (column : Column), spec.columns[place]? = some column →
          ∃ found, Recognised (wordsAt table place) found ∧
            column = Column.ofEvidence column.name found := by
  refine ⟨existsUnique_recognised, fun spec => ?_⟩
  -- what is found at the place of a column is the one type of the words there
  have hspec : ∀ (header : List String) (table : List (List String)),
      (spec = TableSpec.ofHeader header ((table.foldl Evidence.addRow
        (header.map fun _ => Evidence.none)).map Evidence.type?)) ↔
      spec.names = resolveNames header ∧
        ∀ (place : ℕ) (column : Column), spec.columns[place]? = some column →
          ∃ found, Recognised (wordsAt table place) found ∧
            column = Column.ofEvidence column.name found := by
    intro header table
    rw [TableSpec.eq_ofHeader_iff]
    refine and_congr_right fun hnames => forall₃_congr fun place column hcolumn => ?_
    have hplace : place < header.length := by
      rw [← length_resolveNames, ← hnames, TableSpec.names, List.length_map]
      exact (List.getElem?_eq_some_iff.1 hcolumn).1
    constructor
    · intro hfound
      exact ⟨_, recognised_type?_at hplace, hfound⟩
    · rintro ⟨found, hfound, hcolumn⟩
      exact (existsUnique_recognised _).unique hfound (recognised_type?_at hplace) ▸ hcolumn
  constructor
  · intro h
    obtain ⟨bytes, hread, h⟩ := columnsOf_eq_ok_iff.1 h
    obtain ⟨header, table, hheader, hrows, hfault, h⟩ := columnsOfTable_eq_ok_iff.1 h
    exact ⟨bytes, header, table, hread, hheader, hrows, hfault, (hspec header table).1 h⟩
  · rintro ⟨bytes, header, table, hread, hheader, hrows, hfault, h⟩
    exact columnsOf_eq_ok_iff.2 ⟨bytes, hread, columnsOfTable_eq_ok_iff.2
      ⟨header, table, hheader, hrows, hfault, (hspec header table).2 h⟩⟩

end CsvOptions

end OneTable
