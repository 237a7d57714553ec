import OneTable.Proofs.Reader.Rows
import OneTable.Proofs.Result
import OneTable.Reader.Basic

/-!
# What comes out of a reading that ends well

A stream of rows may hold faults, and a sink may refuse; a reading ends at the first of either.
So a reading that ends well has met neither, and then everything that it was about can be said
without any order of steps: the stream is a list of rows, the sink has taken them all, and the
rows fall into one *block* for each item, with one row of the output for each row of the item.

* `OneTable.Sink.Takes` – a sink takes rows and notice of the end;
* `OneTable.Config.RowsOf` – the rows of the output that come from an item;
* `OneTable.Config.stream_eq_map_ok_iff` – **a stream without faults** is one block after the
  other, in the order of the items;
* `OneTable.Config.readInto_eq_ok_iff` – **a reading ends well** exactly if the names of the
  output differ, the stream has no faults, and the sink takes all of it;
* `OneTable.Config.readInto_delimited_eq_ok_iff` – what is written then.
-/

namespace OneTable

/-! ### Sinks -/

/-- **A sink takes rows,** one after the other, and then notice of the end. -/
def Sink.Takes {σ : Type} (sink : Sink σ) : List OutputRow → σ → σ → Prop
  | [], s, s' => sink.finish s = (.ok (), s')
  | row :: rows, s, s' => ∃ t, sink.push row s = (.ok (), t) ∧ sink.Takes rows t s'

section Pouring

variable {σ : Type} {sink : Sink σ} {s s' : σ} {n : ℕ}

/-- **Pouring ends well** exactly if the stream has no faults and the sink takes all of it. -/
theorem pour_eq_ok_iff {stream : List StreamRow} {taken : ℕ} :
    pour sink taken stream s = (.ok n, s') ↔
      ∃ rows, stream = rows.map Except.ok ∧ n = taken + rows.length ∧ sink.Takes rows s s' := by
  induction stream generalizing taken s with
  | nil =>
    have hnil : ∀ rows : List OutputRow, [] = rows.map (Except.ok (ε := Fault)) ↔ rows = [] :=
      fun rows => eq_comm.trans List.map_eq_nil_iff
    simp only [hnil, exists_eq_left, List.length_nil, Nat.add_zero, Sink.Takes, pour]
    rcases hfin : sink.finish s with ⟨_ | u, t⟩ <;> simp [eq_comm]
  | cons result stream ih =>
    rcases result with fault | row
    · -- a fault ends the pouring, and it is no row
      rw [pour]
      exact ⟨fun h => absurd (congrArg Prod.fst h) error_ne_ok,
        fun ⟨_, h, _⟩ => absurd h error_cons_ne_map_ok⟩
    · rw [pour]
      simp only [ok_cons_eq_map_ok_iff]
      rcases hpush : sink.push row s with ⟨trace | u, t⟩
      · refine ⟨fun h => absurd (congrArg Prod.fst h) error_ne_ok, ?_⟩
        rintro ⟨_, ⟨rest, rfl, -⟩, -, t', hpush', -⟩
        exact absurd ((congrArg Prod.fst hpush).symm.trans (congrArg Prod.fst hpush')) error_ne_ok
      · refine ih.trans ⟨?_, ?_⟩
        · rintro ⟨rest, hrest, hn, htakes⟩
          refine ⟨row :: rest, ⟨rest, rfl, hrest⟩, ?_, t, hpush, htakes⟩
          rw [hn, List.length_cons]
          omega
        · rintro ⟨_, ⟨rest, rfl, hrest⟩, hn, t', hpush', htakes⟩
          obtain rfl : t = t' := congrArg Prod.snd (hpush.symm.trans hpush')
          refine ⟨rest, hrest, ?_, htakes⟩
          rw [hn, List.length_cons]
          omega

end Pouring

/-! ### The rows of an item -/

namespace Config

variable {c : Config} {source : Source}

/-- **The rows of the output that come from an item:** every row of the item could be read and
converted, and each gives one row, in the order of the item. -/
def RowsOf (c : Config) (source : Source) (item : String) (spec : TableSpec)
    (rows : List OutputRow) : Prop :=
  ∃ table, source.rows item = .ok (table.map .ok) ∧
    List.Forall₂ (fun cells row => convertRow (c.places spec) cells = .ok row) table rows

/-- The stream of an item has no faults exactly if it is rows of the output. -/
theorem itemStream_eq_map_ok_iff {item : String} {spec : TableSpec} {rows : List OutputRow} :
    c.itemStream source item spec = rows.map .ok ↔ c.RowsOf source item spec rows := by
  rw [itemStream, RowsOf]
  rcases source.rows item with trace | found
  · constructor
    · exact fun h => absurd h error_cons_ne_map_ok
    · rintro ⟨_, h, -⟩
      exact absurd h error_ne_ok
  · -- a row of the item is a fault for itself, or it has its row in the output
    simp only [Except.ok.injEq, map_eq_map_ok_iff, ← forall₂_ok_iff]
    refine ⟨List.Forall₂.imp fun result row h => ?_, List.Forall₂.imp fun result row h => ?_⟩
    · rcases result with trace | cells
      · exact absurd h error_ne_ok
      · exact ⟨cells, rfl, h⟩
    · obtain ⟨cells, rfl, hcells⟩ := h
      exact hcells

/-- An item has its rows of the output only. -/
theorem RowsOf.eq {item : String} {spec : TableSpec} {rows rows' : List OutputRow}
    (h : c.RowsOf source item spec rows) (h' : c.RowsOf source item spec rows') : rows = rows' := by
  rw [← itemStream_eq_map_ok_iff] at h h'
  exact map_ok_injective (h.symm.trans h')

/-- **A stream without faults is one block after the other,** in the order of the items, and
each block holds the rows of its item. -/
theorem stream_eq_map_ok_iff {rows : List OutputRow} :
    c.stream source = rows.map .ok ↔
      ∃ blocks, List.Forall₂ (fun e block => c.RowsOf source e.1 e.2 block)
        c.items.entries blocks ∧ rows = blocks.flatten := by
  rw [stream_eq_flatMap, flatMap_eq_map_ok_iff]
  simp only [itemStream_eq_map_ok_iff]

/-! ### Whole readings -/

variable {σ : Type} {sink : Sink σ} {s s' : σ} {n : ℕ}

/-- **A reading ends well** exactly if the names of the output differ, the stream has no faults
and the sink takes all of it. -/
theorem readInto_eq_ok_iff :
    c.readInto source sink s = (.ok n, s') ↔
      ∃ schema rows t, c.outputSchema = .ok schema ∧ c.stream source = rows.map .ok ∧
        sink.start schema s = (.ok (), t) ∧ sink.Takes rows t s' ∧ n = rows.length := by
  rw [readInto]
  rcases hschema : c.outputSchema with fault | schema
  · refine ⟨fun h => absurd (congrArg Prod.fst h) error_ne_ok, ?_⟩
    rintro ⟨_, _, _, h, -⟩
    exact absurd h error_ne_ok
  · rcases hstart : sink.start schema s with ⟨trace | u, t⟩
    · simp only [hstart]
      refine ⟨fun h => absurd (congrArg Prod.fst h) error_ne_ok, ?_⟩
      rintro ⟨_, _, _, h, -, hstart', -⟩
      obtain rfl := Except.ok.inj h
      exact absurd (congrArg Prod.fst (hstart.symm.trans hstart')) error_ne_ok
    · simp only [hstart]
      refine pour_eq_ok_iff.trans ⟨?_, ?_⟩
      · rintro ⟨rows, hrows, hn, htakes⟩
        exact ⟨schema, rows, t, rfl, hrows, hstart, htakes, by omega⟩
      · rintro ⟨_, rows, t', h, hrows, hstart', htakes, hn⟩
        obtain rfl := Except.ok.inj h
        obtain rfl : t = t' := congrArg Prod.snd (hstart.symm.trans hstart')
        exact ⟨rows, hrows, by omega, htakes⟩

end Config

/-! ### Delimited files -/

/-- The lines of rows. -/
def Sink.lines (delimiter : UInt8) (rows : List OutputRow) : List UInt8 :=
  rows.flatMap fun row => textLine delimiter (row.map cellText)

/-- **A delimited file:** a line of names, and below it a line for each row. -/
def Sink.tableBytes (delimiter : UInt8) (schema : List OutputColumn) (rows : List OutputRow) :
    List UInt8 :=
  textLine delimiter (schema.map OutputColumn.name) ++ lines delimiter rows

/-- A delimited file takes all rows, and it has their lines behind what it had. -/
theorem Sink.takes_delimited_iff {delimiter : UInt8} {rows : List OutputRow}
    {f f' : WrittenFile} : (delimited delimiter).Takes rows f f' ↔
      f' = ⟨f.bytes ++ lines delimiter rows, f.rows + rows.length⟩ := by
  induction rows generalizing f with
  | nil =>
    simp only [Takes, delimited, Prod.mk.injEq, true_and, lines, List.flatMap_nil,
      List.append_nil, List.length_nil, Nat.add_zero]
    exact eq_comm
  | cons row rows ih =>
    have hstep : (delimited delimiter).Takes (row :: rows) f f' ↔ (delimited delimiter).Takes rows
        ⟨f.bytes ++ textLine delimiter (row.map cellText), f.rows + 1⟩ f' := by
      simp [Takes, delimited]
    rw [hstep, ih, lines, lines, List.flatMap_cons, List.append_assoc, List.length_cons,
      Nat.add_assoc, Nat.add_comm 1]

namespace Config

variable {c : Config} {source : Source} {delimiter : UInt8} {n : ℕ} {f : WrittenFile}

/-- **What a reading that ends well writes** to a delimited file. -/
theorem readInto_delimited_eq_ok_iff :
    c.readInto source (Sink.delimited delimiter) {} = (.ok n, f) ↔
      ∃ schema rows, c.outputSchema = .ok schema ∧ c.stream source = rows.map .ok ∧
        f = ⟨Sink.tableBytes delimiter schema rows, rows.length⟩ ∧ n = rows.length := by
  rw [readInto_eq_ok_iff]
  simp only [Sink.takes_delimited_iff]
  constructor
  · rintro ⟨schema, rows, t, hschema, hrows, hstart, hf, hn⟩
    obtain rfl := (Prod.mk.inj hstart).2
    refine ⟨schema, rows, hschema, hrows, ?_, hn⟩
    rw [hf, Nat.zero_add]
    rfl
  · rintro ⟨schema, rows, hschema, hrows, hf, hn⟩
    refine ⟨schema, rows, _, hschema, hrows, rfl, ?_, hn⟩
    rw [hf, Nat.zero_add]
    rfl

end Config

end OneTable
