import Mathlib.Data.List.Perm.Subperm
import OneTable.Proofs.Lookup
import OneTable.Proofs.Number.Decimal
import OneTable.Proofs.Trimming

/-!
# Names for the cells of a header

The cells of a header may be blank, they may repeat each other, and they may already look like a
name that was made up for another cell. Every column gets a name of its own all the same, from left
to right: the name its cell asks for, and if an earlier column has this name, the name with the
least number behind it that no earlier column has.

The search for the number has to end. Different numbers make different names, and none of them is
the name without a number, so that of `n` taken names at most `n - 1` are the name with a number if
one is the name itself (`OneTable.le_length_of_taken`). Therefore the number is at most the count of
the columns in front.

Everything else follows from the names being different and having no blanks around them. A name of
this kind asks for itself, so names are resolved to themselves; and since a column looks only at
the columns in front of it, the names of the first cells do not depend on the others.

* `OneTable.FirstFree` – the name that a base comes to behind taken names, with
  `OneTable.firstFree_freeName`;
* `OneTable.Resolves` – names that the cells of a header come to;
* `OneTable.resolveAfter_append`, `OneTable.resolveAfter_of_isName` – names in two steps, and names
  that are names already;
* `OneTable.resolves_resolveNames` – **every header gets its names**.
-/

namespace OneTable

/-! ### Texts that are names -/

/-- **A text that can be a name:** it is not empty, and there are no blanks around it. -/
structure IsName (s : String) : Prop where
  ne_empty : s ≠ ""
  trimmed_eq : Text.trimmed s = s

theorem trimmed_eq_self_iff {s : String} : Text.trimmed s = s ↔ Text.trim s.toList = s.toList := by
  rw [Text.trimmed]
  constructor
  · intro h
    have hlist := congrArg String.toList h
    rwa [String.toList_ofList] at hlist
  · intro h
    rw [h, String.ofList_toList]

/-- **Every cell asks for a name.** -/
theorem isName_baseName (place : ℕ) (cell : String) : IsName (baseName place cell) := by
  rw [baseName]
  by_cases hblank : Text.trimmed cell = ""
  · simp only [hblank, if_true]
    have hplain : ∀ c ∈ ("Column" ++ String.ofList (decimalDigits place)).toList,
        Text.isBlank c = false := by
      intro c hc
      rw [String.toList_append] at hc
      rcases List.mem_append.1 hc with hc | hc
      · have hword : ("Column".toList.all fun c => !Text.isBlank c) = true := by decide
        simpa using List.all_eq_true.1 hword c hc
      · rw [String.toList_ofList] at hc
        exact isBlank_of_mem_decimalDigits hc
    refine ⟨fun h => ?_, trimmed_eq_self_iff.2 (Text.trim_eq_self_of_forall hplain)⟩
    have hlength := congrArg String.length h
    simp at hlength
  · simp only [hblank, if_false]
    refine ⟨hblank, trimmed_eq_self_iff.2 ?_⟩
    rw [Text.toList_trimmed, Text.trim_trim]

/-- A name asks for itself. -/
theorem baseName_of_isName {s : String} (h : IsName s) (place : ℕ) : baseName place s = s := by
  simp only [baseName, h.trimmed_eq, if_neg h.ne_empty]

/-! ### Names with numbers -/

section Numbers

variable {base : String} {taken : List String} {k : ℕ}

theorem toList_numberedName (base : String) (k : ℕ) :
    (numberedName base k).toList = base.toList ++ (" (#".toList ++ (decimalDigits k ++ [')'])) := by
  simp [numberedName]

/-- **Different numbers make different names.** -/
theorem numberedName_injective (base : String) : Function.Injective (numberedName base) := by
  intro j k h
  have hlist := congrArg String.toList h
  rw [toList_numberedName, toList_numberedName, List.append_cancel_left_eq,
    List.append_cancel_left_eq, List.append_cancel_right_eq] at hlist
  exact decimalDigits_injective hlist

/-- No number leaves a name as it is. -/
theorem numberedName_ne (base : String) (k : ℕ) : numberedName base k ≠ base := by
  intro h
  have hlength := congrArg (fun s : String => s.toList.length) h
  simp only [toList_numberedName, List.length_append, List.length_singleton] at hlength
  omega

/-- A name with a number is a name. -/
theorem isName_numberedName (h : IsName base) (k : ℕ) : IsName (numberedName base k) := by
  have hne : base.toList ≠ [] := fun hnil => h.ne_empty (String.toList_eq_nil_iff.1 hnil)
  refine ⟨fun hempty => ?_, trimmed_eq_self_iff.2 (Text.trim_eq_self_iff.2 ⟨?_, ?_⟩)⟩
  · have hnil := congrArg String.toList hempty
    rw [toList_numberedName] at hnil
    exact hne (List.append_eq_nil_iff.1 hnil).1
  · rw [toList_numberedName, List.head?_append_of_ne_nil _ hne]
    exact (Text.trim_eq_self_iff.1 (trimmed_eq_self_iff.1 h.trimmed_eq)).1
  · intro c hc
    have hlast : (numberedName base k).toList.getLast? = some ')' := by
      rw [toList_numberedName, ← List.append_assoc, ← List.append_assoc, List.getLast?_concat]
    obtain rfl : ')' = c := Option.some.inj (hlast.symm.trans hc)
    rfl

/-- **Not every number is taken.** If a name is taken with all numbers below `k`, and without a
number, there are at least `k` taken names. -/
theorem le_length_of_taken (hbase : base ∈ taken)
    (h : ∀ j, 1 ≤ j → j < k → numberedName base j ∈ taken) (hk : 1 ≤ k) : k ≤ taken.length := by
  have hnumbers : ((List.range' 1 (k - 1)).map (numberedName base)).Nodup :=
    List.Nodup.map (numberedName_injective base) List.nodup_range'
  have hall : (base :: (List.range' 1 (k - 1)).map (numberedName base)).Nodup := by
    refine List.nodup_cons.2 ⟨fun hmem => ?_, hnumbers⟩
    obtain ⟨j, -, hj⟩ := List.mem_map.1 hmem
    exact numberedName_ne base j hj
  have hsubset : base :: (List.range' 1 (k - 1)).map (numberedName base) ⊆ taken := by
    refine List.cons_subset.2 ⟨hbase, fun n hn => ?_⟩
    obtain ⟨j, hj, rfl⟩ := List.mem_map.1 hn
    rw [List.mem_range'_1] at hj
    exact h j hj.1 (by omega)
  have hlength := (List.subperm_of_subset hall hsubset).length_le
  rw [List.length_cons, List.length_map, List.length_range'] at hlength
  omega

/-- The search stops at a number that is not taken, unless it runs out of numbers; all numbers
that it has passed are taken. -/
theorem exists_freeNumbered (taken : List String) (base : String) (fuel k : ℕ) :
    ∃ i, i ≤ fuel ∧ freeNumbered taken base fuel k = numberedName base (k + i) ∧
      (∀ j, j < i → numberedName base (k + j) ∈ taken) ∧
      (i < fuel → numberedName base (k + i) ∉ taken) := by
  induction fuel generalizing k with
  | zero => exact ⟨0, Nat.le_refl 0, rfl, fun j hj => absurd hj (Nat.not_lt_zero j),
      fun h => absurd h (Nat.lt_irrefl 0)⟩
  | succ fuel ih =>
    rw [freeNumbered]
    by_cases htaken : numberedName base k ∈ taken
    · obtain ⟨i, hi, hname, hbelow, hfree⟩ := ih (k + 1)
      have hshift : ∀ j, k + 1 + j = k + (j + 1) := fun j => by omega
      rw [hshift] at hname hfree
      refine ⟨i + 1, by omega, (if_pos htaken).trans hname, ?_, fun hlt => hfree (by omega)⟩
      intro j hj
      rcases j with _ | j
      · exact htaken
      · rw [← hshift]
        exact hbelow j (by omega)
    · exact ⟨0, Nat.zero_le _, if_neg htaken, fun j hj => absurd hj (Nat.not_lt_zero j),
        fun _ => htaken⟩

end Numbers

/-! ### Free names -/

/-- **The name that a base comes to** behind taken names: the base if it is not taken, and else the
base with the least number that is not taken. -/
structure FirstFree (taken : List String) (base name : String) : Prop where
  notMem : name ∉ taken
  eq_base : base ∉ taken → name = base
  /-- The number is at most the count of the taken names, so that the search for it ends. -/
  numbered : base ∈ taken → ∃ k, 1 ≤ k ∧ k ≤ taken.length ∧ name = numberedName base k ∧
    ∀ j, 1 ≤ j → j < k → numberedName base j ∈ taken

/-- **A free name is found,** before the numbers run out. -/
theorem firstFree_freeName (taken : List String) (base : String) :
    FirstFree taken base (freeName taken base) := by
  rw [freeName]
  by_cases hbase : base ∈ taken
  · obtain ⟨i, hi, hname, hbelow, hfree⟩ := exists_freeNumbered taken base taken.length 1
    have hnumbers : ∀ j, 1 ≤ j → j < 1 + i → numberedName base j ∈ taken := by
      intro j hj hji
      obtain ⟨j, rfl⟩ := Nat.exists_eq_add_of_le hj
      exact hbelow j (by omega)
    have hcount : 1 + i ≤ taken.length :=
      le_length_of_taken hbase hnumbers (Nat.le_add_right 1 i)
    rw [if_pos hbase, hname]
    exact ⟨hfree (by omega), fun h => absurd hbase h,
      fun _ => ⟨1 + i, Nat.le_add_right 1 i, hcount, rfl, hnumbers⟩⟩
  · rw [if_neg hbase]
    exact ⟨hbase, fun _ => rfl, fun h => absurd h hbase⟩

/-- A base that is not taken is its own free name. -/
theorem freeName_of_notMem {taken : List String} {base : String} (h : base ∉ taken) :
    freeName taken base = base :=
  if_neg h

/-- A free name of a name is a name. -/
theorem FirstFree.isName {taken : List String} {base name : String}
    (h : FirstFree taken base name) (hbase : IsName base) : IsName name := by
  by_cases htaken : base ∈ taken
  · obtain ⟨k, -, -, rfl, -⟩ := h.numbered htaken
    exact isName_numberedName hbase k
  · exact (h.eq_base htaken).symm ▸ hbase

/-! ### Headers -/

section Headers

variable {taken cells : List String}

/-- **Names can be given in two steps:** the first cells get theirs as if there were no others. -/
theorem resolveAfter_append (taken xs ys : List String) :
    resolveAfter taken (xs ++ ys) =
      resolveAfter taken xs ++ resolveAfter (taken ++ resolveAfter taken xs) ys := by
  induction xs generalizing taken with
  | nil => simp [resolveAfter]
  | cons x xs ih => simp [resolveAfter, ih]

/-- **Names are resolved to themselves,** if they differ from each other and from those before. -/
theorem resolveAfter_of_isName (hnames : ∀ n ∈ cells, IsName n) (hd : (taken ++ cells).Nodup) :
    resolveAfter taken cells = cells := by
  induction cells generalizing taken with
  | nil => rfl
  | cons name names ih =>
    obtain ⟨hname, hnames⟩ := List.forall_mem_cons.1 hnames
    have hfree : name ∉ taken := fun hmem =>
      List.disjoint_of_nodup_append hd hmem List.mem_cons_self
    have hself : freeName taken (baseName (taken.length + 1) name) = name := by
      rw [baseName_of_isName hname, freeName_of_notMem hfree]
    rw [List.append_cons] at hd
    simp only [resolveAfter, hself, ih hnames hd]

/-- What the cells behind taken names come to, one cell after the other. -/
theorem firstFree_of_getElem? (taken : List String) {i : ℕ} {cell name : String}
    (hcell : cells[i]? = some cell) (hname : (resolveAfter taken cells)[i]? = some name) :
    FirstFree (taken ++ (resolveAfter taken cells).take i)
      (baseName (taken.length + i + 1) cell) name := by
  induction cells generalizing taken i with
  | nil => exact absurd hcell (Option.some_ne_none cell).symm
  | cons first cells ih =>
    cases i with
    | zero =>
      obtain rfl : first = cell := Option.some.inj hcell
      obtain rfl := Option.some.inj hname
      rw [List.take_zero, List.append_nil]
      exact firstFree_freeName _ _
    | succ i =>
      let name' := freeName taken (baseName (taken.length + 1) first)
      have hplace : (taken ++ [name']).length + i + 1 = taken.length + (i + 1) + 1 := by
        rw [List.length_append, List.length_singleton]
        omega
      have hrest := ih (taken ++ [name']) hcell hname
      rw [List.append_assoc, hplace] at hrest
      exact hrest

/-- Behind names that differ, names are given that differ from them and from each other. -/
theorem nodup_resolveAfter (taken cells : List String) (hd : taken.Nodup) :
    (taken ++ resolveAfter taken cells).Nodup := by
  induction cells generalizing taken with
  | nil => rwa [resolveAfter, List.append_nil]
  | cons cell cells ih =>
    have hfree := (firstFree_freeName taken (baseName (taken.length + 1) cell)).1
    have hmore := hd.concat hfree
    rw [List.concat_eq_append] at hmore
    rw [resolveAfter, List.append_cons]
    exact ih _ hmore

end Headers

/-- **Names that the cells of a header come to.** -/
structure Resolves (cells names : List String) : Prop where
  length_eq : names.length = cells.length
  distinct : names.Nodup
  isName : ∀ n ∈ names, IsName n
  /-- Each is what the base of its cell comes to behind the names in front of it. -/
  firstFree : ∀ i cell name, cells[i]? = some cell → names[i]? = some name →
    FirstFree (names.take i) (baseName (i + 1) cell) name
  /-- The first cells come to the first names, whatever cells follow. -/
  first : ∀ pre, pre <+: cells → resolveNames pre = names.take pre.length
  /-- The names come to themselves. -/
  fixed : resolveNames names = names
  /-- Every column is found by its name, whatever the types are. -/
  index : ∀ types i name, names[i]? = some name →
    (TableSpec.ofHeader cells types).index? name = some i

/-- **Every header gets its names.** -/
theorem resolves_resolveNames (cells : List String) : Resolves cells (resolveNames cells) := by
  have hd : (resolveNames cells).Nodup := nodup_resolveAfter [] cells List.nodup_nil
  have hfree : ∀ i cell name, cells[i]? = some cell → (resolveNames cells)[i]? = some name →
      FirstFree ((resolveNames cells).take i) (baseName (i + 1) cell) name := by
    intro i cell name hcell hname
    have hafter := firstFree_of_getElem? [] hcell hname
    rwa [List.nil_append, List.length_nil, Nat.zero_add] at hafter
  have hnames : ∀ n ∈ resolveNames cells, IsName n := by
    intro name hmem
    obtain ⟨i, hi, hname⟩ := List.getElem_of_mem hmem
    have hcell : i < cells.length := by rwa [length_resolveNames] at hi
    exact (hfree i cells[i] name (List.getElem?_eq_getElem hcell)
      (hname ▸ List.getElem?_eq_getElem hi)).isName (isName_baseName _ _)
  refine ⟨length_resolveNames cells, hd, hnames, hfree, ?_, ?_, ?_⟩
  · rintro pre ⟨rest, rfl⟩
    rw [resolveNames, resolveNames, resolveAfter_append, ← length_resolveAfter [] pre,
      List.take_left]
  · exact resolveAfter_of_isName hnames hd
  · intro types i name hname
    have hcolumns : ((TableSpec.ofHeader cells types).columns.map Column.name) =
        resolveNames cells := TableSpec.names_ofHeader cells types
    rw [TableSpec.index?, findIdx?_key_eq_some_iff (hcolumns ▸ hd), hcolumns, hname]

/-- Names that were made up give way to nothing, and to them the cells behind give way. -/
example : resolveNames ["a", " ", "a", "a (#1)", "Column2"] =
    ["a", "Column2", "a (#1)", "a (#1) (#1)", "Column2 (#1)"] := by
  decide +kernel

end OneTable
