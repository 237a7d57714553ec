import Mathlib.Tactic.Common
import OneTable.Csv.Line

/-!
# Written rows are read back

A row is written as a line, with quotes where they are needed, and a file is taken apart byte by
byte. This file says that the second undoes the first: whatever bytes the cells hold, the cells
that are read are the cells that were written.

A delimiter has to tell cells apart for this (`OneTable.Csv.Separates`). The rest is a walk of the
cursor along a line. Between two bytes of a cell it is either outside of quotes, and then the cell
has no byte that means anything, or inside of them, and then only a quote means anything and is
doubled. So the bytes of a cell are *passed* without a row being finished
(`OneTable.Csv.Cursor.Passes`), and the delimiter or the end of the line behind them ends the cell.

There is one thing that a line cannot say. A row without cells is written like a row with one empty
cell, and it is read as such a row (`OneTable.Csv.onLine`).

* `OneTable.Csv.Cursor.exists_passes_written` – the bytes of a cell, quoted or not;
* `OneTable.Csv.Cursor.exists_rows_line` – the bytes of a line;
* `OneTable.Csv.Cursor.map_cells_rows_lines` – **the rows of lines are the rows that were written**;
* `OneTable.Csv.map_cells_rowsOf_lines` – the same for a whole file, whose first line may begin with
  what looks like a byte order mark.
-/

namespace OneTable.Csv

/-- **A delimiter that tells cells apart:** a character of ASCII that is no quote and does not end
a row. -/
structure Separates (delimiter : UInt8) : Prop where
  isAscii : delimiter < 0x80
  ne_quote : delimiter ≠ quote
  not_endsRow : endsRow delimiter = false

instance (delimiter : UInt8) : Decidable (Separates delimiter) :=
  decidable_of_iff (delimiter < 0x80 ∧ delimiter ≠ quote ∧ endsRow delimiter = false)
    ⟨fun h => ⟨h.1, h.2.1, h.2.2⟩, fun h => ⟨h.1, h.2, h.3⟩⟩

/-- The cells that the line of a row shows: a row without cells shows an empty one. -/
def onLine {α : Type} : List (List α) → List (List α)
  | [] => [[]]
  | cell :: cells => cell :: cells

namespace Cursor

variable {delimiter : UInt8} {s s' t : Cursor} {bs cs rest : List UInt8} {cell : Cell}

/-! ### Bytes that finish no row -/

/-- **Bytes take a cursor to another one** without finishing a row. -/
def Passes (delimiter : UInt8) (s : Cursor) (bs : List UInt8) (s' : Cursor) : Prop :=
  ∀ rest, rows delimiter s (bs ++ rest) = rows delimiter s' rest

theorem Passes.refl (s : Cursor) : s.Passes delimiter [] s := fun _ => rfl

theorem Passes.trans (h : s.Passes delimiter bs t) (h' : t.Passes delimiter cs s') :
    s.Passes delimiter (bs ++ cs) s' := by
  intro rest
  rw [List.append_assoc, h, h']

theorem passes_of_next {b : UInt8} (h : s.next delimiter b = (s', none)) :
    s.Passes delimiter [b] s' := by
  intro rest
  rw [List.singleton_append, rows, h]

/-- The cell of a cursor has grown by some bytes; the cells in front of it are as they were. -/
structure Took (s : Cursor) (bs : List UInt8) (s' : Cursor) : Prop where
  bytes_eq : s'.bytes = bs.reverse ++ s.bytes
  cells_eq : s'.cells = s.cells
  start_eq : s'.start = s.start

theorem Took.trans (h : s.Took bs t) (h' : t.Took cs s') : s.Took (bs ++ cs) s' where
  bytes_eq := by rw [h'.bytes_eq, h.bytes_eq, List.reverse_append, List.append_assoc]
  cells_eq := h'.cells_eq.trans h.cells_eq
  start_eq := h'.start_eq.trans h.start_eq

/-! ### Single bytes -/

section Bytes

variable {b : UInt8}

/-- The cursor with one more byte behind it. -/
def counted (s : Cursor) (b : UInt8) : Cursor := { s with mark := s.mark.after b }

/-- A byte without a meaning is not the delimiter, no quote and no end of a row. -/
theorem not_isSpecial_iff :
    isSpecial delimiter b = false ↔ b ≠ delimiter ∧ b ≠ quote ∧ endsRow b = false := by
  simp [isSpecial, and_assoc]

/-- Outside of quotes, a byte without a meaning is taken into the cell. -/
theorem next_of_not_isSpecial (hs : s.place ≠ .quoted) (hb : isSpecial delimiter b = false) :
    s.next delimiter b = ((s.counted b).take .plain b, none) := by
  obtain ⟨hdelim, hquote, hends⟩ := not_isSpecial_iff.1 hb
  cases hplace : s.place with
  | quoted => exact absurd hplace hs
  | _ => simp [next, counted, hplace, opening, plainly, hdelim, hquote, hends]

/-- A quote at the beginning of a cell opens a quotation. -/
theorem next_quote (hs : s.place = .row ∨ s.place = .cell) :
    s.next delimiter quote = ({ s.counted quote with place := .quoted }, none) := by
  have hends : endsRow quote = false := rfl
  rcases hs with hs | hs
  · simp [next, counted, hs, opening, hends]
  · simp [next, counted, hs, opening]

/-- **The delimiter ends a cell,** where no quotation is open. -/
theorem next_delimiter (h : Separates delimiter) (hs : s.place ≠ .quoted) :
    s.next delimiter delimiter = ((s.counted delimiter).endCell, none) := by
  cases hplace : s.place with
  | quoted => exact absurd hplace hs
  | _ => simp [next, counted, hplace, opening, plainly, h.ne_quote, h.not_endsRow]

/-- **A line feed ends a row** that has begun, where no quotation is open. -/
theorem next_lineFeed (h : Separates delimiter) (hs : s.place ≠ .quoted) (hrow : s.place ≠ .row) :
    s.next delimiter 10 = (before (s.mark.after 10), some s.finished) := by
  have hdelim : (10 : UInt8) ≠ delimiter := fun heq => absurd h.not_endsRow (heq ▸ by decide)
  have hquote : (10 : UInt8) ≠ quote := by decide
  have hends : endsRow 10 = true := rfl
  cases hplace : s.place with
  | quoted => exact absurd hplace hs
  | row => exact absurd hplace hrow
  | _ => simp [next, hplace, opening, plainly, hdelim, hquote, hends, finished]

end Bytes

/-! ### Cells -/

/-- Outside of quotes, bytes without a meaning are bytes of the cell. -/
theorem exists_passes_plain (hs : s.place ≠ .quoted)
    (hbs : ∀ b ∈ bs, isSpecial delimiter b = false) :
    ∃ s', s.Passes delimiter bs s' ∧ s'.place ≠ .quoted ∧
      (s'.place = .row → bs = [] ∧ s.place = .row) ∧ s.Took bs s' := by
  induction bs generalizing s with
  | nil => exact ⟨s, Passes.refl s, hs, fun hrow => ⟨rfl, hrow⟩, rfl, rfl, rfl⟩
  | cons b bs ih =>
    obtain ⟨hb, hbs⟩ := List.forall_mem_cons.1 hbs
    have hplain : ((s.counted b).take .plain b).place ≠ .quoted := nofun
    have htaken : s.Took [b] ((s.counted b).take .plain b) := ⟨rfl, rfl, rfl⟩
    obtain ⟨s', hpass, hquoted, hrow, htook⟩ := ih hplain hbs
    refine ⟨s', (passes_of_next (next_of_not_isSpecial hs hb)).trans hpass, hquoted, ?_,
      htaken.trans htook⟩
    intro hs'
    exact absurd (hrow hs').2 nofun

/-- Inside of quotes, every byte is a byte of the cell, and a doubled quote is one. -/
theorem exists_passes_doubled (delimiter : UInt8) (hs : s.place = .quoted) (bs : List UInt8) :
    ∃ s', s.Passes delimiter (bs.flatMap fun b => if b = quote then [quote, quote] else [b]) s' ∧
      s'.place = .quoted ∧ s.Took bs s' := by
  induction bs generalizing s with
  | nil => exact ⟨s, Passes.refl s, hs, rfl, rfl, rfl⟩
  | cons b bs ih =>
    obtain ⟨t, hpass, hplace, htook⟩ : ∃ t,
        s.Passes delimiter (if b = quote then [quote, quote] else [b]) t ∧ t.place = .quoted ∧
          s.Took [b] t := by
      by_cases hb : b = quote
      · -- the first quote may close the cell, the second one says that it does not
        subst hb
        have hfirst : s.next delimiter quote =
            ({ s.counted quote with place := .closing }, none) := by
          simp [next, counted, hs]
        have hsecond : Cursor.next { s.counted quote with place := .closing } delimiter quote =
            (Cursor.take { (s.counted quote).counted quote with place := .closing } .quoted quote,
              none) := rfl
        rw [if_pos rfl]
        exact ⟨_, (passes_of_next hfirst).trans (passes_of_next hsecond), rfl, rfl, rfl, rfl⟩
      · have hnext : s.next delimiter b =
            ((s.counted b).take .quoted b, none) := by
          simp [next, counted, hs, hb]
        rw [if_neg hb]
        exact ⟨_, passes_of_next hnext, rfl, rfl, rfl, rfl⟩
    obtain ⟨s', hpass', hplace', htook'⟩ := ih hplace
    exact ⟨s', hpass.trans hpass', hplace', htook.trans htook'⟩

/-- A cell in quotes is passed from its first quote to its last. -/
theorem exists_passes_quoted (delimiter : UInt8) (hs : s.place = .row ∨ s.place = .cell)
    (cell : Cell) :
    ∃ s', s.Passes delimiter (quoted cell) s' ∧ s'.place = .closing ∧ s.Took cell s' := by
  obtain ⟨t, hpass, hplace, htook⟩ := exists_passes_doubled delimiter
    (s := { s.counted quote with place := .quoted }) rfl cell
  have hclose : t.next delimiter quote =
      ({ t.counted quote with place := .closing }, none) := by
    simp [next, counted, hplace]
  exact ⟨_, ((passes_of_next (next_quote hs)).trans hpass).trans (passes_of_next hclose), rfl,
    htook.bytes_eq, htook.cells_eq, htook.start_eq⟩

/-- **The bytes of a cell are passed,** quoted or not, and they are the cell. -/
theorem exists_passes_written (delimiter : UInt8) (hs : s.place = .row ∨ s.place = .cell)
    (cell : Cell) :
    ∃ s', s.Passes delimiter (written delimiter cell) s' ∧ s'.place ≠ .quoted ∧
      (s'.place = .row → written delimiter cell = [] ∧ s.place = .row) ∧ s.Took cell s' := by
  rw [written]
  by_cases hneeds : needsQuotes delimiter cell = true
  · obtain ⟨s', hpass, hplace, htook⟩ := exists_passes_quoted delimiter hs cell
    rw [if_pos hneeds]
    refine ⟨s', hpass, ?_, ?_, htook⟩
    · rw [hplace]; nofun
    · rw [hplace]; nofun
  · have hplain : ∀ b ∈ cell, isSpecial delimiter b = false := by
      simpa [needsQuotes] using hneeds
    have hopen : s.place ≠ .quoted := by rcases hs with hs | hs <;> rw [hs] <;> nofun
    rw [if_neg hneeds]
    exact exists_passes_plain hopen hplain

/-! ### Lines -/

/-- **The bytes of a line are passed,** and behind them the row may end as the row that was
written; only a line of no bytes does not begin one. -/
theorem exists_passes_joined (h : Separates delimiter) (hs : s.place = .row ∨ s.place = .cell)
    (hbytes : s.bytes = []) (cell : Cell) (cells : List Cell) :
    ∃ s', s.Passes delimiter (joined delimiter (cell :: cells)) s' ∧ s'.place ≠ .quoted ∧
      (s'.place = .row → joined delimiter (cell :: cells) = [] ∧ s.place = .row) ∧
      s'.finished = ⟨s.cells.reverse ++ cell :: cells, s.start⟩ := by
  induction cells generalizing s cell with
  | nil =>
    obtain ⟨s', hpass, hquoted, hrow, htook⟩ :=
      exists_passes_written delimiter hs cell
    refine ⟨s', hpass, hquoted, hrow, ?_⟩
    rw [finished, htook.bytes_eq, htook.cells_eq, htook.start_eq, hbytes, List.append_nil,
      List.reverse_reverse, List.reverse_cons]
  | cons next cells ih =>
    obtain ⟨t, hpass, hquoted, -, htook⟩ := exists_passes_written delimiter hs cell
    -- the delimiter ends the first cell, and the others are those of a shorter line
    obtain ⟨s', hpassRest, hquoted', hrow', hfinished⟩ :=
      ih (s := (t.counted delimiter).endCell) (.inr rfl) rfl next
    have hdelim : t.Passes delimiter [delimiter] (t.counted delimiter).endCell :=
      passes_of_next (next_delimiter h hquoted)
    have hcells : (t.counted delimiter).endCell.cells.reverse = s.cells.reverse ++ [cell] := by
      rw [endCell, counted, htook.bytes_eq, htook.cells_eq, hbytes, List.append_nil,
        List.reverse_reverse, List.reverse_cons]
    refine ⟨s', hpass.trans (hdelim.trans hpassRest), hquoted', ?_, ?_⟩
    · intro hr
      exact absurd (hrow' hr).2 nofun
    · rw [hfinished, hcells, List.append_assoc, List.singleton_append]
      exact congrArg (Row.mk _) htook.start_eq

/-- Before the first byte of a row, where no cell of it is known. -/
structure Fresh (s : Cursor) : Prop where
  place_eq : s.place = .row
  bytes_eq : s.bytes = []
  cells_eq : s.cells = []

theorem fresh_before (m : Mark) : (before m).Fresh := ⟨rfl, rfl, rfl⟩

/-- A line of no bytes is skipped. -/
theorem rows_lineFeed (delimiter : UInt8) (hs : s.Fresh) (rest : List UInt8) :
    ∃ s', s'.Fresh ∧ rows delimiter s (10 :: rest) = rows delimiter s' rest := by
  have hnext : s.next delimiter 10 = (s.counted 10, none) := by
    have hends : endsRow 10 = true := rfl
    simp [next, counted, hs.place_eq, hends]
  exact ⟨s.counted 10, ⟨hs.place_eq, hs.bytes_eq, hs.cells_eq⟩, passes_of_next hnext rest⟩

/-- **The joined cells are the row that is read first,** unless they have no bytes. -/
theorem exists_rows_joined (h : Separates delimiter) (hs : s.Fresh) {cells : List Cell}
    (hne : joined delimiter cells ≠ []) (rest : List UInt8) :
    ∃ s', s'.Fresh ∧ rows delimiter s (joined delimiter cells ++ 10 :: rest) =
      ⟨cells, s.start⟩ :: rows delimiter s' rest := by
  cases cells with
  | nil => exact absurd rfl hne
  | cons cell cells =>
    obtain ⟨t, hpass, hquoted, hrow, hfinished⟩ :=
      exists_passes_joined h (.inl hs.place_eq) hs.bytes_eq cell cells
    have hnext := next_lineFeed h hquoted fun hr => hne (hrow hr).1
    refine ⟨before (t.mark.after 10), fresh_before _, ?_⟩
    rw [hpass, rows, hnext, hfinished, hs.cells_eq]
    rfl

theorem onLine_of_joined_ne_nil {cells : List Cell} (h : joined delimiter cells ≠ []) :
    onLine cells = cells := by
  cases cells with
  | nil => exact absurd rfl h
  | cons cell cells => rfl

/-- Cells have no bytes in a line if there is nothing but one empty cell at most. -/
theorem onLine_of_joined_eq_nil {cells : List Cell} (h : joined delimiter cells = []) :
    onLine cells = [[]] := by
  match cells, h with
  | [], _ => rfl
  | [cell], h =>
    rw [joined, written] at h
    split at h
    · exact absurd h (List.cons_ne_nil _ _)
    · rw [h]; rfl
  | _ :: _ :: _, h => exact absurd (List.append_eq_nil_iff.1 h).2 (List.cons_ne_nil _ _)

/-- **The line of a row is read as the row.** -/
theorem exists_rows_line (h : Separates delimiter) (hs : s.Fresh) (cells : List Cell)
    (rest : List UInt8) :
    ∃ s', s'.Fresh ∧ rows delimiter s (line delimiter cells ++ rest) =
      ⟨onLine cells, s.start⟩ :: rows delimiter s' rest := by
  rw [line]
  by_cases hnil : joined delimiter cells = []
  · -- the line has quotes, so that it is no blank line
    obtain ⟨t, hpass, hplace, htook⟩ :=
      exists_passes_quoted delimiter (.inl hs.place_eq) []
    have hnext := next_lineFeed (s := t) h (by rw [hplace]; nofun) (by rw [hplace]; nofun)
    have hfinished : t.finished = ⟨[[]], s.start⟩ := by
      rw [finished, htook.bytes_eq, htook.cells_eq, htook.start_eq, hs.bytes_eq, hs.cells_eq]
      rfl
    refine ⟨before (t.mark.after 10), fresh_before _, ?_⟩
    rw [if_pos hnil, onLine_of_joined_eq_nil hnil, List.append_assoc, hpass, List.singleton_append,
      rows, hnext, hfinished]
  · rw [if_neg hnil, onLine_of_joined_ne_nil hnil, List.append_assoc, List.singleton_append]
    exact exists_rows_joined h hs hnil rest

/-- **The rows of lines are the rows that were written.** -/
theorem map_cells_rows_lines (h : Separates delimiter) (hs : s.Fresh) (table : List (List Cell)) :
    (rows delimiter s (table.flatMap (line delimiter))).map Row.cells = table.map onLine := by
  induction table generalizing s with
  | nil => rw [List.flatMap_nil, rows, if_pos hs.place_eq]; rfl
  | cons cells table ih =>
    obtain ⟨s', hs', hrows⟩ := exists_rows_line h hs cells (table.flatMap (line delimiter))
    rw [List.flatMap_cons, hrows, List.map_cons, List.map_cons, ih hs']

end Cursor

/-! ### Files -/

section Files

open Cursor

variable {delimiter : UInt8}

/-- A file without a byte order mark is read from its first byte. -/
theorem rowsOf_of_unmarked {bytes : List UInt8} (h : ¬byteOrderMark <+: bytes) :
    rowsOf delimiter bytes = rows delimiter (before fileStart) bytes := by
  unfold rowsOf
  split
  · next bs => exact absurd (List.prefix_append byteOrderMark bs) h
  · rfl

/-- What a text begins with, up to a byte that is not in it, does not reach behind the byte. -/
theorem prefix_of_prefix_append_cons {p xs ys : List UInt8} {b : UInt8}
    (h : p <+: xs ++ b :: ys) (hb : b ∉ p) : p <+: xs := by
  obtain ⟨bs, hbs⟩ := h
  rcases List.append_eq_append_iff.1 hbs with ⟨c, hxs, -⟩ | ⟨c, hp, hc⟩
  · exact ⟨c, hxs.symm⟩
  · cases c with
    | nil => exact ⟨[], by rw [hp, List.append_nil, List.append_nil]⟩
    | cons b' c =>
      obtain ⟨rfl, -⟩ := List.cons.inj hc
      exact absurd (by rw [hp]; simp) hb

/-- Behind the first cell of a line there is the delimiter or the end of the line, and what is
there does not depend on the cell. -/
theorem exists_behind_first (delimiter : UInt8) (cells : List Cell) (rest : List UInt8) :
    ∃ b bs, (b = delimiter ∨ b = 10) ∧ ∀ cell,
      joined delimiter (cell :: cells) ++ 10 :: rest = written delimiter cell ++ b :: bs := by
  cases cells with
  | nil => exact ⟨10, rest, .inr rfl, fun cell => rfl⟩
  | cons next cells =>
    refine ⟨delimiter, joined delimiter (next :: cells) ++ 10 :: rest, .inl rfl, fun cell => ?_⟩
    rw [joined, List.append_assoc, List.cons_append]
    exact List.cons_ne_nil _ _

/-- **A line that begins like a byte order mark** has it in its first cell, and what is behind it
is the line of the other cells and of what is left of the first. -/
theorem exists_line_eq_of_marked (h : Separates delimiter) {cells : List Cell}
    {rest : List UInt8} (hmark : byteOrderMark <+: line delimiter cells ++ rest) :
    ∃ cells', line delimiter cells ++ rest =
      byteOrderMark ++ (joined delimiter cells' ++ 10 :: rest) := by
  have hquote : ∀ bs, ¬byteOrderMark <+: quote :: bs := by
    intro bs hprefix
    exact absurd (List.cons_prefix_cons.1 hprefix).1 (by decide)
  by_cases hnil : joined delimiter cells = []
  · rw [line, if_pos hnil] at hmark
    exact absurd hmark (hquote _)
  · rw [line, if_neg hnil, List.append_assoc, List.singleton_append] at hmark ⊢
    cases cells with
    | nil => exact absurd rfl hnil
    | cons cell cells =>
      obtain ⟨b, bs, hb, hjoined⟩ := exists_behind_first delimiter cells rest
      have hascii : b ∉ byteOrderMark := by
        have hlow : b < 0x80 := by
          rcases hb with rfl | rfl
          · exact h.isAscii
          · decide
        intro hmem
        simp only [byteOrderMark, List.mem_cons, List.not_mem_nil, or_false] at hmem
        rcases hmem with rfl | rfl | rfl
        · exact absurd hlow (by decide)
        · exact absurd hlow (by decide)
        · exact absurd hlow (by decide)
      rw [hjoined] at hmark
      have hcell := prefix_of_prefix_append_cons hmark hascii
      -- a quoted cell begins with a quote
      have hplain : needsQuotes delimiter cell = false := by
        rw [written] at hcell
        split at hcell
        · exact absurd hcell (hquote _)
        · next hneeds => exact Bool.eq_false_iff.2 hneeds
      have hwritten : ∀ cs, needsQuotes delimiter cs = false → written delimiter cs = cs := by
        intro cs hcs
        rw [written, hcs, if_neg Bool.false_ne_true]
      rw [hwritten cell hplain] at hcell
      obtain ⟨x, rfl⟩ := hcell
      have hx : needsQuotes delimiter x = false := by
        rw [needsQuotes, List.any_append, Bool.or_eq_false_iff] at hplain
        exact hplain.2
      refine ⟨x :: cells, ?_⟩
      rw [hjoined, hjoined, hwritten _ hplain, hwritten x hx, List.append_assoc]

/-- **The rows of a file of lines are the rows that were written.** If the first line begins like
a byte order mark, its row is another one, or is missing; the rows below it are the same. -/
theorem map_cells_rowsOf_lines (h : Separates delimiter) (header : List Cell)
    (table : List (List Cell)) :
    ∃ first, (rowsOf delimiter (line delimiter header ++ table.flatMap (line delimiter))).map
        Row.cells = first ++ table.map onLine ∧ first.length ≤ 1 ∧
      (first = [onLine header] ∨
        byteOrderMark <+: line delimiter header ++ table.flatMap (line delimiter)) := by
  set rest := table.flatMap (line delimiter) with hrest
  by_cases hmark : byteOrderMark <+: line delimiter header ++ rest
  · obtain ⟨cells, hline⟩ := exists_line_eq_of_marked h hmark
    have hstart : ∀ bs, rowsOf delimiter (byteOrderMark ++ bs) =
        rows delimiter { before fileStart with mark := ⟨byteOrderMark.length, 1⟩ } bs :=
      fun bs => rfl
    have hfresh : Fresh { before fileStart with mark := ⟨byteOrderMark.length, 1⟩ } :=
      ⟨rfl, rfl, rfl⟩
    rw [hline, hstart]
    by_cases hnil : joined delimiter cells = []
    · obtain ⟨s', hs', hrows⟩ := rows_lineFeed delimiter hfresh rest
      refine ⟨[], ?_, by decide, .inr (hline ▸ hmark)⟩
      rw [hnil, List.nil_append, hrows, map_cells_rows_lines h hs', List.nil_append]
    · obtain ⟨s', hs', hrows⟩ := exists_rows_joined h hfresh hnil rest
      refine ⟨[cells], ?_, by simp, .inr (hline ▸ hmark)⟩
      rw [hrows, List.map_cons, map_cells_rows_lines h hs', List.singleton_append]
  · obtain ⟨s', hs', hrows⟩ := exists_rows_line h (fresh_before fileStart) header rest
    refine ⟨[onLine header], ?_, by simp, .inl rfl⟩
    rw [rowsOf_of_unmarked hmark, hrows, List.map_cons, map_cells_rows_lines h hs',
      List.singleton_append]

end Files

end OneTable.Csv
