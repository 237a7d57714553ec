import OneTable.Proofs.Reader.Configured

/-!
# How a scan ends

A scan asks for one item after the other, and it looks at its token before each of them and once
more behind the last. So there are three ways in which it can end: all items were answered and
the token was never seen cancelled; the token was cancelled, after some of the items; or an item
was not answered. In each of them the number of items that were asked for is known, and these
are the first ones of the list, in its order.

What a complete scan finds has two sides. Its *names* are those of the list, each once, in the
order in which they are first met. Its *columns* are, for each name, those that the last scan of
it told. Both are properties of putting one item in after the other, whoever was asked.

* `OneTable.Items.Collects` – what comes of putting items in, with
  `OneTable.Items.collects_ofList`;
* `OneTable.Scanner.Answers` – the answers to a list of items, one after the other;
* `OneTable.Scanner.Ends` – the three ways in which a scan ends, with
  `OneTable.Scanner.scan_ends`: **every scan ends in one of them**.
-/

namespace OneTable

/-! ### Tokens -/

namespace Watch

/-- Every scan is counted. -/
theorem scans_steps (w : Watch) (n : ℕ) : (w.steps n).scans = w.scans + n := by
  induction n generalizing w with
  | zero => rfl
  | succ n ih =>
    rw [steps, ih, step, Nat.add_right_comm]
    rfl

end Watch

/-! ### Items that are put in one after the other -/

namespace Items

/-- Puts items in, one after the other. -/
def insertAll (found : Items) (entries : List (String × TableSpec)) : Items :=
  entries.foldl (fun is e => is.insert e.1 e.2) found

variable {found : Items} {entries : List (String × TableSpec)} {item : String} {spec : TableSpec}

/-- The item that is put in is there, with its columns. -/
theorem mem_insertEntry_self (es : List (String × TableSpec)) :
    (item, spec) ∈ insertEntry item spec es := by
  induction es with
  | nil => exact List.mem_singleton_self _
  | cons e es ih =>
    rw [insertEntry]
    by_cases h : e.1 = item
    · rw [if_pos h, h]
      exact List.mem_cons_self
    · rw [if_neg h]
      exact List.mem_cons_of_mem e ih

/-- The other items keep their columns. -/
theorem mem_insertEntry_of_ne {e : String × TableSpec} {es : List (String × TableSpec)}
    (he : e ∈ es) (hne : e.1 ≠ item) : e ∈ insertEntry item spec es := by
  induction es with
  | nil => exact absurd he List.not_mem_nil
  | cons d es ih =>
    rw [insertEntry]
    by_cases h : d.1 = item
    · rw [if_pos h]
      have hed : e ≠ d := fun heq => hne (heq ▸ h)
      exact List.mem_cons_of_mem _ ((List.mem_cons.1 he).resolve_left hed)
    · rw [if_neg h]
      rcases List.mem_cons.1 he with rfl | he
      · exact List.mem_cons_self
      · exact List.mem_cons_of_mem d (ih he)

/-- **The names behind those that were there** are the new ones, each where it is first met. -/
theorem names_insertAll : (found.insertAll entries).names =
    found.names ++ ((entries.map Prod.fst).removeAll found.names).eraseDups := by
  induction entries generalizing found with
  | nil => exact (List.append_nil _).symm
  | cons e entries ih =>
    have hstep : (found.insertAll (e :: entries)).names =
        ((found.insert e.1 e.2).insertAll entries).names := rfl
    rw [hstep, ih, List.map_cons]
    by_cases h : e.1 ∈ found.names
    · rw [names_insert_of_mem h]
      simp [List.removeAll, h]
    · rw [names_insert_of_notMem h]
      simp [List.removeAll, h, List.eraseDups_cons, List.filter_filter, beq_eq_decide,
        Bool.and_comm]

/-- An item that is not put in again keeps its columns. -/
theorem mem_entries_insertAll {e : String × TableSpec} (he : e ∈ found.entries)
    (hnew : e.1 ∉ entries.map Prod.fst) : e ∈ (found.insertAll entries).entries := by
  induction entries generalizing found with
  | nil => exact he
  | cons d entries ih =>
    rw [List.map_cons, List.mem_cons, not_or] at hnew
    exact ih (mem_insertEntry_of_ne he hnew.1) hnew.2

/-- **What comes of putting in a list of items** with their columns: each item once, where it is
first met, with the columns that it has where it is met last. -/
structure Collects (items : List String) (specs : List TableSpec) (found : Items) : Prop where
  names_eq : found.names = items.eraseDups
  last_wins : ∀ (i : ℕ) (item : String) (spec : TableSpec), items[i]? = some item →
    specs[i]? = some spec → item ∉ items.drop (i + 1) → (item, spec) ∈ found.entries

/-- The columns of an item are those it was put in with last. -/
theorem mem_insertAll_zip {items : List String} {specs : List TableSpec}
    (hlength : specs.length = items.length) {i : ℕ} (hitem : items[i]? = some item)
    (hspec : specs[i]? = some spec) (hlast : item ∉ items.drop (i + 1)) :
    (item, spec) ∈ (found.insertAll (items.zip specs)).entries := by
  induction items generalizing found specs i with
  | nil => exact absurd hitem (by simp)
  | cons n items ih =>
    cases specs with
    | nil => exact absurd hspec (by simp)
    | cons s specs =>
      have hle : specs.length = items.length := Nat.succ_inj.1 hlength
      cases i with
      | zero =>
        obtain rfl := Option.some.inj hitem
        obtain rfl := Option.some.inj hspec
        have hself : (n, s) ∈ (found.insert n s).entries := mem_insertEntry_self _
        have hnew : n ∉ (items.zip specs).map Prod.fst := by
          rwa [List.map_fst_zip (Nat.le_of_eq hle.symm)]
        have hmem : (n, s) ∈ ((found.insert n s).insertAll (items.zip specs)).entries :=
          mem_entries_insertAll hself hnew
        exact hmem
      | succ i => exact ih hle hitem hspec hlast

/-- **A list of items that is put in is collected.** -/
theorem collects_ofList {items : List String} {specs : List TableSpec}
    (hlength : specs.length = items.length) : Collects items specs (ofList (items.zip specs)) where
  names_eq := by
    have hnames : (ofList (items.zip specs)).names =
        (((items.zip specs).map Prod.fst).removeAll []).eraseDups := names_insertAll
    rw [hnames, List.map_fst_zip (Nat.le_of_eq hlength.symm), List.removeAll_nil]
  last_wins _ _ _ hitem hspec hlast := mem_insertAll_zip hlength hitem hspec hlast

end Items

/-! ### Scans -/

namespace Scanner

/-- **The answers to items** that are asked for one after the other, behind a number of scans
that were made before. -/
inductive Answers (scanner : Scanner) : ℕ → List String → List TableSpec → Prop
  | nil (n : ℕ) : Answers scanner n [] []
  | cons {n : ℕ} {item : String} {spec : TableSpec} {items : List String}
      {specs : List TableSpec} : scanner n item = .ok spec → Answers scanner (n + 1) items specs →
      Answers scanner n (item :: items) (spec :: specs)

/-- Every item has its answer. -/
theorem Answers.length_eq {scanner : Scanner} {n : ℕ} {items : List String}
    {specs : List TableSpec} (h : scanner.Answers n items specs) :
    specs.length = items.length := by
  induction h with
  | nil n => rfl
  | cons _ _ ih => exact congrArg (· + 1) ih

/-- **The ways in which a scan ends,** when there were items found before. -/
inductive Ends (scanner : Scanner) (found : Items) (w : Watch) (items : List String) :
    Except Fault Items → Watch → Prop
  /-- All items were answered, and the token was not cancelled. -/
  | complete {specs : List TableSpec} : scanner.Answers w.scans items specs →
      (w.steps items.length).cancelled = false →
      Ends scanner found w items (.ok (found.insertAll (items.zip specs))) (w.steps items.length)
  /-- After some of the items the token was seen cancelled for the first time. -/
  | cancelled {done rest : List String} {specs : List TableSpec} : items = done ++ rest →
      scanner.Answers w.scans done specs → (w.steps done.length).cancelled = true →
      (∀ i < done.length, (w.steps i).cancelled = false) →
      Ends scanner found w items (.error .cancelled) (w.steps done.length)
  /-- After some of the items one was not answered. -/
  | failed {done rest : List String} {item : String} {specs : List TableSpec} {trace : Trace} :
      items = done ++ item :: rest → scanner.Answers w.scans done specs →
      (w.steps done.length).cancelled = false →
      scanner (w.scans + done.length) item = .error trace →
      Ends scanner found w items (.error (.scan item trace)) (w.steps (done.length + 1))

variable {scanner : Scanner} {found : Items} {w w' : Watch} {item : String} {items : List String}
  {spec : TableSpec} {result : Except Fault Items}

/-- A scan whose token is cancelled ends before it asks for anything. -/
theorem Ends.of_cancelled (h : w.cancelled = true) :
    scanner.Ends found w items (.error .cancelled) w :=
  .cancelled rfl (.nil _) h fun i hi => absurd hi (Nat.not_lt_zero i)

/-- **One step of a scan:** an item is answered, and the scan ends as it does behind it. -/
theorem Ends.cons (hgo : w.cancelled = false) (hspec : scanner w.scans item = .ok spec)
    (h : scanner.Ends (found.insert item spec) w.step items result w') :
    scanner.Ends found w (item :: items) result w' := by
  cases h with
  | complete hans hend => exact .complete (.cons hspec hans) hend
  | cancelled hitems hans hend hbefore =>
    refine .cancelled (congrArg (item :: ·) hitems) (.cons hspec hans) hend fun i hi => ?_
    cases i with
    | zero => exact hgo
    | succ i => exact hbefore i (Nat.lt_of_succ_lt_succ hi)
  | @failed done rest last specs trace hitems hans hend hfail =>
    refine .failed (congrArg (item :: ·) hitems) (.cons hspec hans) hend ?_
    rw [List.length_cons, Nat.add_comm done.length, ← Nat.add_assoc]
    exact hfail

/-- Wherever a scan goes on from, it ends in one of the three ways. -/
theorem scanMore_ends (scanner : Scanner) (found : Items) (items : List String) (w : Watch) :
    scanner.Ends found w items (scanMore scanner found items w).1
      (scanMore scanner found items w).2 := by
  induction items generalizing found w with
  | nil =>
    rcases hw : w.cancelled with _ | _
    · rw [scanMore, hw]
      exact .complete (.nil _) hw
    · rw [scanMore, hw]
      exact .of_cancelled hw
  | cons item rest ih =>
    rcases hw : w.cancelled with _ | _
    · rcases hspec : scanner w.scans item with trace | spec
      · have hscan : scanMore scanner found (item :: rest) w =
            (.error (.scan item trace), w.step) := by
          rw [scanMore, hw, hspec]
          rfl
        rw [hscan]
        exact .failed rfl (.nil _) hw hspec
      · have hscan : scanMore scanner found (item :: rest) w =
            scanMore scanner (found.insert item spec) rest w.step := by
          rw [scanMore, hw, hspec]
          rfl
        rw [hscan]
        exact (ih _ _).cons hw hspec
    · rw [scanMore, hw]
      exact .of_cancelled hw

/-- **Every scan ends in one of the three ways.** -/
theorem scan_ends (scanner : Scanner) (items : List String) (w : Watch) :
    scanner.Ends Items.empty w items (scanner.scan items w).1 (scanner.scan items w).2 :=
  scanMore_ends scanner Items.empty items w

end Scanner

end OneTable
