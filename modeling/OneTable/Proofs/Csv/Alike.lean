import Mathlib.Data.List.Forall2
import Mathlib.Tactic.Common
import OneTable.Csv.Table
import OneTable.Proofs.Csv.Lines

/-!
# Files that are taken apart alike

Two files may say the same in different bytes. They are taken apart at the same places if they
differ only in runs of bytes that are taken into a cell as they are. Whether a byte is one of those
depends on the place it is met in: in the middle of a cell a quote is a byte like any other, and
between quotes a delimiter is. A run of no bytes is one only where a cell has begun, for it is its
bytes that make a blank line a row, and that keep a quote behind them from opening a quotation.

What the two files say is a relation between cells, which every such run and every common byte has
to keep when it is put behind a cell (`OneTable.Csv.Keeps`); only what a file ends with need not
go on. Two cursors that walk along the two files are then in step: they stand at the same place of
the same line, and what they have read is related (`OneTable.Csv.Cursor.InStep`). A common byte is
one step for both, and a run takes each of them to where it ends.

* `OneTable.Csv.Place.takesAll` – bytes that are taken into a cell;
* `OneTable.Csv.Alike` – two files that differ in runs only;
* `OneTable.Csv.Cursor.InStep.next` – the effect of a common byte;
* `OneTable.Csv.Cursor.InStep.rows` – **the rows of the two files are related**;
* `OneTable.Csv.Table.related_ofBytes` – **the tables of the two files are related**, where a byte
  order mark at the beginning does not count.
-/

namespace OneTable.Csv

/-! ### Bytes that are taken into a cell -/

namespace Place

variable {p : Place} {delimiter b : UInt8} {us : List UInt8}

/-- The place behind a byte. -/
def after (p : Place) (delimiter b : UInt8) : Place :=
  ({ Cursor.before fileStart with place := p }.next delimiter b).1.place

/-- The place behind a byte that is taken into the cell as it is. -/
def inside : Place → Place
  | .quoted => .quoted
  | _ => .plain

/-- **A byte that is taken into the cell as it is,** and does not end a line. Where a cell begins,
and behind a quote that may have closed it, no byte that means something is. -/
def takes (p : Place) (delimiter b : UInt8) : Bool :=
  match p with
  | .plain => b != delimiter && !endsRow b
  | .quoted => b != quote && b != 10
  | .row | .cell | .closing => !isSpecial delimiter b

/-- **Bytes that are taken into the cell as they are.** If there are none, the cell has begun. -/
def takesAll (p : Place) (delimiter : UInt8) : List UInt8 → Bool
  | [] => p == p.inside
  | b :: bs => p.takes delimiter b && bs.all (p.inside.takes delimiter)

@[simp]
theorem inside_inside (p : Place) : p.inside.inside = p.inside := by
  cases p <;> rfl

theorem takesAll_cons (p : Place) (delimiter b : UInt8) (bs : List UInt8) :
    p.takesAll delimiter (b :: bs) =
      (p.takes delimiter b && p.inside.takesAll delimiter bs) := by
  cases bs with
  | nil => simp [takesAll]
  | cons c bs => simp [takesAll]

/-- A byte that means nothing anywhere is taken into every cell. -/
theorem takes_of_not_isSpecial (p : Place) (hb : isSpecial delimiter b = false) :
    p.takes delimiter b = true := by
  obtain ⟨hdelim, hquote, hends⟩ := Cursor.not_isSpecial_iff.1 hb
  have hfeed : b ≠ 10 := by
    rintro rfl
    exact absurd hends (by decide)
  cases p with
  | plain => simp [takes, hdelim, hends]
  | quoted => simp [takes, hquote, hfeed]
  | row | cell | closing => simp [takes, hb]

theorem takesAll_of_not_isSpecial (p : Place) (hne : us ≠ [])
    (hus : ∀ u ∈ us, isSpecial delimiter u = false) : p.takesAll delimiter us = true := by
  cases us with
  | nil => exact absurd rfl hne
  | cons u us =>
    obtain ⟨hu, hus⟩ := List.forall_mem_cons.1 hus
    rw [takesAll, Bool.and_eq_true, List.all_eq_true]
    exact ⟨p.takes_of_not_isSpecial hu, fun v hv => p.inside.takes_of_not_isSpecial (hus v hv)⟩

end Place

/-! ### Files -/

/-- **Bytes keep a relation between cells** when they are put behind them. -/
def Keeps (R : Cell → Cell → Prop) (bs bs' : List UInt8) : Prop :=
  ∀ x x' : Cell, R x x' → R (x ++ bs) (x' ++ bs')

/-- **Two files that differ in runs only,** from a place on, and say what the relations say: one is
kept as long as there is more, and the other one holds in the end. -/
inductive Alike (delimiter : UInt8) (R S : Cell → Cell → Prop) :
    Place → List UInt8 → List UInt8 → Prop
  | nil {p : Place} : Alike delimiter R S p [] []
  | byte {p : Place} {bs bs' : List UInt8} (b : UInt8) (hkeeps : Keeps R [b] [b])
      (h : Alike delimiter R S (p.after delimiter b) bs bs') :
      Alike delimiter R S p (b :: bs) (b :: bs')
  | run {p : Place} {us us' bs bs' : List UInt8} (hus : p.takesAll delimiter us = true)
      (hus' : p.takesAll delimiter us' = true) (hkeeps : Keeps R us us')
      (h : Alike delimiter R S p.inside bs bs') : Alike delimiter R S p (us ++ bs) (us' ++ bs')
  | last {p : Place} {us us' : List UInt8} (hus : p.takesAll delimiter us = true)
      (hus' : p.takesAll delimiter us' = true)
      (hends : ∀ x x', R x x' → S (x ++ us) (x' ++ us')) : Alike delimiter R S p us us'

/-- Two rows with related cells that begin in the same line. -/
structure Row.Related (R : Cell → Cell → Prop) (row row' : Row) : Prop where
  cells : List.Forall₂ R row.cells row'.cells
  line_eq : row.start.line = row'.start.line

theorem Row.Related.imp {R S : Cell → Cell → Prop} {row row' : Row} (h : Row.Related R row row')
    (himp : ∀ x x', R x x' → S x x') : Row.Related S row row' :=
  ⟨h.cells.imp himp, h.line_eq⟩

namespace Cursor

variable {delimiter b : UInt8} {R S : Cell → Cell → Prop} {s s' : Cursor}
  {us us' bs bs' : List UInt8} {p : Place}

/-- **Two cursors in step:** they stand at the same place of the same line, and what they have read
is related. -/
structure InStep (R : Cell → Cell → Prop) (s s' : Cursor) : Prop where
  place_eq : s.place = s'.place
  bytes : R s.bytes.reverse s'.bytes.reverse
  cells : List.Forall₂ R s.cells s'.cells
  line_eq : s.mark.line = s'.mark.line
  start_eq : s.start.line = s'.start.line

/-- **Two cursors answer alike** when they are in step again, and either both have finished a row or
none of them. -/
def Answers (R : Cell → Cell → Prop) (p p' : Cursor × Option Row) : Prop :=
  InStep R p.1 p'.1 ∧ Option.Rel (Row.Related R) p.2 p'.2

theorem inStep_before (hnil : R [] []) {m m' : Mark} (h : m.line = m'.line) :
    InStep R (before m) (before m') :=
  ⟨rfl, hnil, .nil, h, h⟩

namespace InStep

/-! ### Common bytes -/

theorem counted (h : InStep R s s') (b : UInt8) : InStep R (s.counted b) (s'.counted b) := by
  refine ⟨h.place_eq, h.bytes, h.cells, ?_, h.start_eq⟩
  simp only [Cursor.counted, Mark.after, h.line_eq]

theorem moved (h : InStep R s s') (place : Place) :
    InStep R { s with place := place } { s' with place := place } :=
  ⟨rfl, h.bytes, h.cells, h.line_eq, h.start_eq⟩

theorem take (h : InStep R s s') (hkeeps : Keeps R [b] [b]) (place : Place) :
    InStep R (s.take place b) (s'.take place b) := by
  refine ⟨rfl, ?_, h.cells, h.line_eq, h.start_eq⟩
  simp only [Cursor.take, List.reverse_cons]
  exact hkeeps _ _ h.bytes

theorem endCell (h : InStep R s s') (hnil : R [] []) : InStep R s.endCell s'.endCell :=
  ⟨rfl, hnil, .cons h.bytes h.cells, h.line_eq, h.start_eq⟩

theorem finished (h : InStep R s s') : Row.Related R s.finished s'.finished :=
  ⟨List.rel_reverse (.cons h.bytes h.cells), h.start_eq⟩

theorem plainly (h : InStep R s s') (hnil : R [] []) (hkeeps : Keeps R [b] [b]) :
    Answers R (s.plainly delimiter b) (s'.plainly delimiter b) := by
  unfold Cursor.plainly
  split
  · exact ⟨h.endCell hnil, .none⟩
  split
  · exact ⟨inStep_before hnil h.line_eq, .some h.finished⟩
  · exact ⟨h.take hkeeps .plain, .none⟩

theorem opening (h : InStep R s s') (hnil : R [] []) (hkeeps : Keeps R [b] [b]) :
    Answers R (s.opening delimiter b) (s'.opening delimiter b) := by
  unfold Cursor.opening
  split
  · exact ⟨h.moved .quoted, .none⟩
  · exact h.plainly hnil hkeeps

/-- **A common byte keeps two cursors in step.** -/
theorem next (h : InStep R s s') (delimiter : UInt8) (hnil : R [] [])
    (hkeeps : Keeps R [b] [b]) : Answers R (s.next delimiter b) (s'.next delimiter b) := by
  have hcounted := h.counted b
  have hplace : s'.place = s.place := h.place_eq.symm
  -- one case for each place, which is the same for both
  cases hs : s.place with
  | row =>
    simp only [Cursor.next, hplace, hs]
    split
    · exact ⟨hcounted.moved .row, .none⟩
    · exact hcounted.opening hnil hkeeps
  | cell =>
    simp only [Cursor.next, hplace, hs]
    exact hcounted.opening hnil hkeeps
  | plain =>
    simp only [Cursor.next, hplace, hs]
    exact hcounted.plainly hnil hkeeps
  | quoted =>
    simp only [Cursor.next, hplace, hs]
    split
    · exact ⟨hcounted.moved .closing, .none⟩
    · exact ⟨hcounted.take hkeeps .quoted, .none⟩
  | closing =>
    simp only [Cursor.next, hplace, hs]
    split
    · exact ⟨hcounted.take hkeeps .quoted, .none⟩
    · exact hcounted.plainly hnil hkeeps

end InStep

/-! ### Runs -/

/-- The place of a cursor behind a byte depends on the place in front of it only. -/
theorem place_next (s : Cursor) (delimiter b : UInt8) :
    (s.next delimiter b).1.place = s.place.after delimiter b := by
  have hplainly : ∀ t t' : Cursor,
      (t.plainly delimiter b).1.place = (t'.plainly delimiter b).1.place := by
    intro t t'
    unfold Cursor.plainly
    split
    · rfl
    split
    · rfl
    · rfl
  have hopening : ∀ t t' : Cursor,
      (t.opening delimiter b).1.place = (t'.opening delimiter b).1.place := by
    intro t t'
    unfold Cursor.opening
    split
    · rfl
    · exact hplainly t t'
  unfold Place.after
  cases hs : s.place with
  | row =>
    simp only [next, hs]
    split
    · rfl
    · exact hopening _ _
  | cell => simp only [next, hs]; exact hopening _ _
  | plain => simp only [next, hs]; exact hplainly _ _
  | quoted =>
    simp only [next, hs]
    split
    · rfl
    · rfl
  | closing =>
    simp only [next, hs]
    split
    · rfl
    · exact hplainly _ _

/-- The cursor behind a run of bytes. -/
def ran (s : Cursor) (us : List UInt8) : Cursor :=
  { s with
    place := s.place.inside
    bytes := us.reverse ++ s.bytes
    mark := ⟨s.mark.byte + us.length, s.mark.line⟩ }

theorem next_eq_ran (hb : s.place.takes delimiter b = true) :
    s.next delimiter b = (s.ran [b], none) := by
  cases hs : s.place with
  | quoted =>
    obtain ⟨hquote, hfeed⟩ : b ≠ quote ∧ b ≠ 10 := by simpa [hs, Place.takes] using hb
    simp [next, hs, hquote, take, ran, Place.inside, Mark.after, hfeed]
  | plain =>
    obtain ⟨hdelim, hends⟩ : b ≠ delimiter ∧ endsRow b = false := by
      simpa [hs, Place.takes] using hb
    have hfeed : b ≠ 10 := by
      rintro rfl
      exact absurd hends (by decide)
    simp [next, hs, plainly, hdelim, hends, take, ran, Place.inside, Mark.after, hfeed]
  | row | cell | closing =>
    have hspecial : isSpecial delimiter b = false := by simpa [hs, Place.takes] using hb
    have hfeed : b ≠ 10 := by
      rintro rfl
      exact absurd (not_isSpecial_iff.1 hspecial).2.2 (by decide)
    rw [next_of_not_isSpecial (by simp [hs]) hspecial]
    simp [counted, take, ran, hs, Place.inside, Mark.after, hfeed]

/-- **A run is passed,** up to the cursor behind it. -/
theorem passes_ran (hus : s.place.takesAll delimiter us = true) :
    s.Passes delimiter us (s.ran us) := by
  induction us generalizing s with
  | nil =>
    have hplace : s.place = s.place.inside := by simpa [Place.takesAll] using hus
    have hran : s.ran [] = s := by simp [ran, ← hplace]
    rw [hran]
    exact Passes.refl s
  | cons u us ih =>
    rw [Place.takesAll_cons, Bool.and_eq_true] at hus
    have hran : (s.ran [u]).ran us = s.ran (u :: us) := by
      simp [ran, Nat.add_assoc, Nat.add_comm 1]
    rw [← hran]
    exact (passes_of_next (next_eq_ran hus.1)).trans (ih hus.2)

theorem InStep.ran (h : InStep R s s') (hkeeps : Keeps R us us') :
    InStep R (s.ran us) (s'.ran us') := by
  refine ⟨?_, ?_, h.cells, h.line_eq, h.start_eq⟩
  · simp only [Cursor.ran, h.place_eq]
  · simp only [Cursor.ran, List.reverse_append, List.reverse_reverse]
    exact hkeeps _ _ h.bytes

/-- **A file that ends with a run** ends with the row that the run is in. -/
theorem rows_ran (hus : s.place.takesAll delimiter us = true) :
    rows delimiter s us = [(s.ran us).finished] := by
  have hrows := passes_ran hus []
  have hplace : (s.ran us).place ≠ .row := by
    cases hs : s.place <;> simp [ran, hs, Place.inside]
  rwa [List.append_nil, rows, if_neg hplace] at hrows

/-! ### Rows -/

/-- **The rows from two cursors in step are related.** -/
theorem InStep.rows (halike : Alike delimiter R S p bs bs') (h : InStep R s s')
    (hp : s.place = p) (hnil : R [] []) (himp : ∀ x x', R x x' → S x x') :
    List.Forall₂ (Row.Related S) (rows delimiter s bs) (rows delimiter s' bs') := by
  -- a common byte is a step of both cursors, and a run takes each of them to its own end
  induction halike generalizing s s' with
  | nil =>
    rw [Cursor.rows, Cursor.rows, h.place_eq]
    split
    · exact .nil
    · exact .cons (h.finished.imp himp) .nil
  | byte b hkeeps _ ih =>
    rw [Cursor.rows, Cursor.rows]
    have hplace := s.place_next delimiter b
    rw [hp] at hplace
    obtain ⟨hstep, hrow⟩ := h.next delimiter hnil hkeeps
    rcases hnext : s.next delimiter b with ⟨t, o⟩
    rcases hnext' : s'.next delimiter b with ⟨t', o'⟩
    rw [hnext, hnext'] at hstep hrow
    rw [hnext] at hplace
    cases hrow with
    | none => exact ih hstep hplace
    | some hrow => exact .cons (hrow.imp himp) (ih hstep hplace)
  | run hus hus' hkeeps _ ih =>
    subst hp
    rw [passes_ran hus, passes_ran (h.place_eq ▸ hus')]
    exact ih (h.ran hkeeps) rfl
  | last hus hus' hends =>
    subst hp
    rw [rows_ran hus, rows_ran (h.place_eq ▸ hus')]
    refine .cons ⟨List.rel_reverse (.cons ?_ (h.cells.imp himp)), h.start_eq⟩ .nil
    simp only [Cursor.ran, List.reverse_append, List.reverse_reverse]
    exact hends _ _ h.bytes

end Cursor

/-! ### Tables -/

/-- **Two rows of tables with related cells,** or two faults that are about the same row of the same
line and find the same numbers of cells. They may differ in the byte they name. -/
inductive RelatedRow (P : List Cell → List Cell → Prop) :
    Except RowFault (List Cell) → Except RowFault (List Cell) → Prop
  | cells {cells cells' : List Cell} (h : P cells cells') : RelatedRow P (.ok cells) (.ok cells')
  | fault (f f' : RowFault) (hnumber : f.number = f'.number) (hline : f.start.line = f'.start.line)
      (hfound : f.found = f'.found) (hexpected : f.expected = f'.expected) :
      RelatedRow P (.error f) (.error f')

namespace Table

/-- **Two tables with related headers and related rows.** -/
structure Related (P : List Cell → List Cell → Prop) (t t' : Table) : Prop where
  header : P t.header t'.header
  rows : List.Forall₂ (RelatedRow P) t.rows t'.rows

/-- The cells of a row, if it is no fault. -/
def cellsOf : Except RowFault (List Cell) → List Cell
  | .ok cells => cells
  | .error _ => []

/-- All cells of a table, in its header and below it. -/
def cells (t : Table) : List Cell :=
  t.header ++ t.rows.flatMap cellsOf

/-- What holds of the rows of two tables may be concluded from what relates them. -/
theorem Related.imp {P Q : List Cell → List Cell → Prop} {t t' : Table} (h : Related P t t')
    (himp : ∀ row row', row ⊆ t.cells → row' ⊆ t'.cells → P row row' → Q row row') :
    Related Q t t' := by
  refine ⟨himp _ _ (List.subset_append_left _ _) (List.subset_append_left _ _) h.header, ?_⟩
  have hbelow : ∀ row row', row ⊆ t.rows.flatMap cellsOf → row' ⊆ t'.rows.flatMap cellsOf →
      P row row' → Q row row' := fun row row' hrow hrow' =>
    himp row row' (List.subset_append_of_subset_right _ hrow)
      (List.subset_append_of_subset_right _ hrow')
  -- what is left of the rows stays among the cells of the tables
  have hrows := h.rows
  generalize t.rows = rows at hrows hbelow
  generalize t'.rows = rows' at hrows hbelow
  induction hrows with
  | nil => exact .nil
  | cons hrow _ ih =>
    rw [List.flatMap_cons, List.flatMap_cons] at hbelow
    refine .cons ?_ (ih fun row row' hsub hsub' => hbelow row row'
      (List.subset_append_of_subset_right _ hsub) (List.subset_append_of_subset_right _ hsub'))
    cases hrow with
    | cells h =>
      exact .cells (hbelow _ _ (List.subset_append_left _ _) (List.subset_append_left _ _) h)
    | fault f f' hnumber hline hfound hexpected =>
      exact .fault f f' hnumber hline hfound hexpected

end Table

section Tables

variable {delimiter : UInt8} {R S : Cell → Cell → Prop}

theorem relatedRow_checkRow {row row' : Row} (h : Row.Related R row row') (expected number : ℕ) :
    RelatedRow (List.Forall₂ R) (checkRow expected row number) (checkRow expected row' number) := by
  have hlength : row.cells.length = row'.cells.length := h.cells.length_eq
  rw [checkRow, checkRow, hlength]
  split
  · exact .cells h.cells
  · exact .fault _ _ rfl h.line_eq rfl rfl

theorem relatedRows_zipIdx {rows rows' : List Row} (h : List.Forall₂ (Row.Related R) rows rows')
    (expected first : ℕ) :
    List.Forall₂ (RelatedRow (List.Forall₂ R))
      ((rows.zipIdx first).map fun (row, number) => checkRow expected row number)
      ((rows'.zipIdx first).map fun (row, number) => checkRow expected row number) := by
  induction h generalizing first with
  | nil => exact .nil
  | cons hrow _ ih =>
    rw [List.zipIdx_cons, List.zipIdx_cons, List.map_cons, List.map_cons]
    exact .cons (relatedRow_checkRow hrow expected first) (ih (first + 1))

/-- The tables of related rows are related. -/
theorem Table.related_of_rows {bytes bytes' : List UInt8}
    (h : List.Forall₂ (Row.Related R) (rowsOf delimiter bytes) (rowsOf delimiter bytes')) :
    Table.Related (List.Forall₂ R) (Table.ofBytes delimiter bytes)
      (Table.ofBytes delimiter bytes') := by
  rw [ofBytes, ofBytes]
  generalize rowsOf delimiter bytes = rows at h ⊢
  generalize rowsOf delimiter bytes' = rows' at h ⊢
  cases h with
  | nil => exact ⟨.nil, .nil⟩
  | cons hheader hbelow =>
    refine ⟨hheader.cells, ?_⟩
    dsimp only
    rw [← hheader.cells.length_eq]
    exact relatedRows_zipIdx hbelow _ 1

/-- The bytes of a file behind a byte order mark, if it begins with one. -/
def unmarked : List UInt8 → List UInt8
  | 0xEF :: 0xBB :: 0xBF :: bs => bs
  | bs => bs

theorem unmarked_eq_self {bytes : List UInt8} (h : ¬byteOrderMark <+: bytes) :
    unmarked bytes = bytes := by
  unfold unmarked
  split
  · next bs => exact absurd (List.prefix_append byteOrderMark bs) h
  · rfl

/-- The rows of a file are those behind its byte order mark. -/
theorem exists_rowsOf_eq (delimiter : UInt8) (bytes : List UInt8) :
    ∃ m : Mark, m.line = 1 ∧ rowsOf delimiter bytes =
      Cursor.rows delimiter { Cursor.before fileStart with mark := m } (unmarked bytes) := by
  by_cases h : byteOrderMark <+: bytes
  · obtain ⟨bs, rfl⟩ := h
    exact ⟨⟨byteOrderMark.length, 1⟩, rfl, rfl⟩
  · rw [rowsOf_of_unmarked h, unmarked_eq_self h]
    exact ⟨fileStart, rfl, rfl⟩

/-- **The tables of two files are related** if they differ in runs only, behind a byte order mark.
-/
theorem Table.related_ofBytes {bytes bytes' : List UInt8}
    (h : Alike delimiter R S .row (unmarked bytes) (unmarked bytes')) (hnil : R [] [])
    (himp : ∀ x x', R x x' → S x x') :
    Table.Related (List.Forall₂ S) (Table.ofBytes delimiter bytes)
      (Table.ofBytes delimiter bytes') := by
  obtain ⟨m, hm, hrows⟩ := exists_rowsOf_eq delimiter bytes
  obtain ⟨m', hm', hrows'⟩ := exists_rowsOf_eq delimiter bytes'
  have hstep : Cursor.InStep R { Cursor.before fileStart with mark := m }
      { Cursor.before fileStart with mark := m' } := ⟨rfl, hnil, .nil, hm.trans hm'.symm, rfl⟩
  refine related_of_rows ?_
  rw [hrows, hrows']
  exact hstep.rows h rfl hnil himp

/-- A file is alike to itself. -/
theorem alike_self (delimiter : UInt8) (p : Place) (bytes : List UInt8) :
    Alike delimiter Eq Eq p bytes bytes := by
  induction bytes generalizing p with
  | nil => exact .nil
  | cons b bytes ih => exact .byte b (fun _ _ h => congrArg (· ++ [b]) h) (ih _)

end Tables

end OneTable.Csv
