import OneTable.Proofs.RawSpec
import OneTable.Proofs.Record.FixedPoint

/-!
# The items of a record

A record names the columns of its items, and it may name an item more than once. The items are put
in one after the other, and one that is named again takes the place of the earlier one: it stands
where it was met first, and it has the columns that it has where it is met last. So what is left of
a list of items can be said at once (`OneTable.Record.standing`), and the raw spec is that of the
items that are left.

The types of the columns are given by name. A name that is given none makes the record fail, and
nothing else does; and as there is one type for each name, the items cannot disagree about a type.
The union has therefore the types that the names are given, whatever the items are.

* `OneTable.Record.standing` – what is left of a list of items, with
  `OneTable.Record.entries_ofList`;
* `OneTable.Record.typedItems_eq_ok_iff` – **items are typed exactly if every name has a type**;
* `OneTable.Record.map_name_union`, `OneTable.Record.type_of_mem_union` – the names and the types
  of the union.
-/

namespace OneTable

/-- An item that is put in again takes the place of the earlier one. -/
theorem Items.insertEntry_of_mem {item : String} {spec : TableSpec}
    {es : List (String × TableSpec)} (hd : (es.map Prod.fst).Nodup) (h : item ∈ es.map Prod.fst) :
    insertEntry item spec es = es.map fun e => if e.1 = item then (item, spec) else e := by
  induction es with
  | nil => exact absurd h List.not_mem_nil
  | cons e es ih =>
    rw [List.map_cons, List.nodup_cons] at hd
    rw [insertEntry, List.map_cons]
    by_cases he : e.1 = item
    · -- no other entry has this name
      have hrest : ∀ d ∈ es, (if d.1 = item then (item, spec) else d) = d := fun d hmem =>
        if_neg fun hitem => hd.1 (List.mem_map.2 ⟨d, hmem, hitem.trans he.symm⟩)
      rw [if_pos he, if_pos he, he, List.map_congr_left hrest, List.map_id']
    · rw [if_neg he, if_neg he, ih hd.2 ((List.mem_cons.1 h).resolve_left (Ne.symm he))]

namespace Record

/-- A list without what was met before has nothing twice. -/
theorem nodup_eraseDups (ns : List String) : ns.eraseDups.Nodup := by
  induction ns using List.reverseRecOn with
  | nil => exact List.nodup_nil
  | append_singleton ns n ih =>
    rw [RawSpec.eraseDups_append_singleton]
    by_cases h : n ∈ ns
    · rwa [if_pos h]
    · rw [if_neg h]
      exact ih.append (List.nodup_singleton n)
        (List.disjoint_singleton.2 fun hn => h (List.mem_eraseDups.1 hn))

/-- No name of the columns of items is listed twice. -/
theorem nodup_unionNames (rs : List RecordItem) : (unionNames rs).Nodup :=
  nodup_eraseDups _

/-- What is found for the keys of a list bears these keys. -/
theorem map_key_filterMap {α β : Type} {l : List α} {f : α → Option β} {key : β → α}
    (h : ∀ a ∈ l, (f a).map key = some a) : (l.filterMap f).map key = l := by
  rw [List.map_filterMap]
  exact (List.filterMap_congr h).trans List.filterMap_some

/-! ### Items that are named again -/

/-- An item of a list as it is met last. -/
def latest? (rs : List RecordItem) (item : String) : Option RecordItem :=
  rs.reverse.find? fun r => r.item = item

/-- **What is left of a list of items:** each where it is met first, as it is met last. -/
def standing (rs : List RecordItem) : List RecordItem :=
  (rs.map RecordItem.item).eraseDups.filterMap (latest? rs)

section Standing

variable {rs : List RecordItem} {r : RecordItem} {item : String}

theorem latest?_append_singleton (rs : List RecordItem) (r : RecordItem) (item : String) :
    latest? (rs ++ [r]) item = if r.item = item then some r else latest? rs item := by
  by_cases h : r.item = item
  · simp [latest?, h]
  · simp [latest?, h]

theorem item_of_latest? (h : latest? rs item = some r) : r ∈ rs ∧ r.item = item :=
  ⟨List.mem_reverse.1 (List.mem_of_find?_eq_some h), by simpa using List.find?_some h⟩

theorem exists_latest? (h : item ∈ rs.map RecordItem.item) : ∃ r, latest? rs item = some r := by
  rw [← Option.ne_none_iff_exists', latest?, ne_eq, find?_key_eq_none_iff, not_not,
    List.map_reverse, List.mem_reverse]
  exact h

/-- What is left was there. -/
theorem mem_of_mem_standing (h : r ∈ standing rs) : r ∈ rs := by
  obtain ⟨item, -, hitem⟩ := List.mem_filterMap.1 h
  exact (item_of_latest? hitem).1

/-- **Every item is left once,** where it is first met. -/
theorem map_item_standing (rs : List RecordItem) :
    (standing rs).map RecordItem.item = (rs.map RecordItem.item).eraseDups := by
  refine map_key_filterMap fun item hitem => ?_
  obtain ⟨r, hr⟩ := exists_latest? (List.mem_eraseDups.1 hitem)
  rw [hr, Option.map_some, (item_of_latest? hr).2]

theorem standing_eq_nil_iff : standing rs = [] ↔ rs = [] := by
  constructor
  · intro h
    by_contra hne
    obtain ⟨r, hr⟩ := List.exists_mem_of_ne_nil rs hne
    have hitem := List.mem_eraseDups.2 (List.mem_map_of_mem (f := RecordItem.item) hr)
    rw [← map_item_standing, h] at hitem
    exact List.not_mem_nil hitem
  · rintro rfl
    rfl

/-- An item that was not met before is put behind the others. -/
theorem standing_append_of_notMem (h : r.item ∉ rs.map RecordItem.item) :
    standing (rs ++ [r]) = standing rs ++ [r] := by
  rw [standing, List.map_append, List.map_singleton, RawSpec.eraseDups_append_singleton, if_neg h,
    List.filterMap_append, List.filterMap_cons_some ((latest?_append_singleton rs r r.item).trans
    (if_pos rfl)), List.filterMap_nil, standing]
  congr 1
  refine List.filterMap_congr fun item hitem => ?_
  rw [latest?_append_singleton, if_neg]
  rintro rfl
  exact h (List.mem_eraseDups.1 hitem)

/-- An item that was met before takes the place of the earlier one. -/
theorem standing_append_of_mem (h : r.item ∈ rs.map RecordItem.item) :
    standing (rs ++ [r]) = (standing rs).map fun s => if s.item = r.item then r else s := by
  rw [standing, List.map_append, List.map_singleton, RawSpec.eraseDups_append_singleton, if_pos h,
    standing, List.map_filterMap]
  refine List.filterMap_congr fun item hitem => ?_
  obtain ⟨s, hs⟩ := exists_latest? (List.mem_eraseDups.1 hitem)
  have hname := (item_of_latest? hs).2
  rw [latest?_append_singleton, hs, Option.map_some]
  by_cases hr : r.item = item
  · rw [if_pos hr, if_pos (hname.trans hr.symm)]
  · rw [if_neg hr, if_neg fun hc => hr (hc.symm.trans hname)]

end Standing

/-- **Items that are put in one after the other** are those that are left of the list. -/
theorem entries_ofList (spec : RecordItem → TableSpec) (rs : List RecordItem) :
    (Items.ofList (rs.map fun r => (r.item, spec r))).entries =
      (standing rs).map fun r => (r.item, spec r) := by
  induction rs using List.reverseRecOn with
  | nil => rfl
  | append_singleton rs r ih =>
    have hstep : Items.ofList ((rs ++ [r]).map fun r => (r.item, spec r)) =
        (Items.ofList (rs.map fun r => (r.item, spec r))).insert r.item (spec r) := by
      rw [List.map_append, Items.ofList, List.foldl_append]
      rfl
    have hinsert : ((Items.ofList (rs.map fun r => (r.item, spec r))).insert r.item
        (spec r)).entries = Items.insertEntry r.item (spec r)
          (Items.ofList (rs.map fun r => (r.item, spec r))).entries := rfl
    have hnames : (Items.ofList (rs.map fun r => (r.item, spec r))).entries.map Prod.fst =
        (rs.map RecordItem.item).eraseDups := by
      rw [ih, List.map_map, ← map_item_standing]
      rfl
    rw [hstep]
    by_cases h : r.item ∈ rs.map RecordItem.item
    · have hmem := hnames.symm ▸ List.mem_eraseDups.2 h
      rw [hinsert, Items.insertEntry_of_mem (Items.distinct _) hmem, ih,
        standing_append_of_mem h, List.map_map, List.map_map]
      refine List.map_congr_left fun s _ => ?_
      by_cases hs : s.item = r.item
      · simp [hs]
      · simp [hs]
    · have hnew := hnames.symm ▸ mt List.mem_eraseDups.1 h
      rw [Items.entries_insert_of_notMem _ hnew, ih, standing_append_of_notMem h, List.map_append,
        List.map_singleton]

/-! ### Types by name -/

section Typed

variable {entries : List (String × ColumnType)} {n : String}

theorem last?_eq_none_iff {α : Type} {entries : List (String × α)} :
    last? entries n = none ↔ n ∉ entries.map Prod.fst := by
  rw [last?, Option.map_eq_none_iff, find?_key_eq_none_iff, List.map_reverse, List.mem_reverse]

/-- Something is found under a name that is listed. -/
theorem exists_last? {α : Type} {entries : List (String × α)} (h : n ∈ entries.map Prod.fst) :
    ∃ a, last? entries n = some a :=
  Option.ne_none_iff_exists'.1 (mt last?_eq_none_iff.1 (not_not.2 h))

/-- A name that is listed has the type that it is given. -/
theorem last?_of_mem (h : n ∈ entries.map Prod.fst) :
    last? entries n = some (typeIn entries n) := by
  obtain ⟨t, ht⟩ := exists_last? h
  rw [typeIn, ht, Option.getD_some]

/-- The columns of an item, of the types that their names are given. -/
def typedSpec (entries : List (String × ColumnType)) (r : RecordItem) : TableSpec :=
  ⟨r.columns.map fun n => Column.ofType n (typeIn entries n)⟩

/-- **The columns of an item are typed** exactly if every name has a type. -/
theorem typedColumns_eq_ok_iff {item : String} {ns : List String} {cs : List Column} :
    typedColumns entries item ns = .ok cs ↔ (∀ n ∈ ns, n ∈ entries.map Prod.fst) ∧
      cs = ns.map fun n => Column.ofType n (typeIn entries n) := by
  have hok : (∀ n ∈ ns, n ∈ entries.map Prod.fst) → typedColumns entries item ns =
      .ok (ns.map fun n => Column.ofType n (typeIn entries n)) := fun h =>
    typedColumns_eq_ok fun n hn => last?_of_mem (h n hn)
  refine ⟨fun h => ?_, fun h => h.2 ▸ hok h.1⟩
  have hlisted : ∀ n ∈ ns, n ∈ entries.map Prod.fst := by
    clear hok
    induction ns generalizing cs with
    | nil => exact fun n hn => absurd hn List.not_mem_nil
    | cons n ns ih =>
      rw [typedColumns] at h
      rcases hn : last? entries n with _ | t <;> rw [hn] at h
      · exact absurd h error_ne_ok
      · obtain ⟨cs', hcs, -⟩ := map_eq_ok_iff.1 h
        refine List.forall_mem_cons.2 ⟨?_, ih hcs⟩
        by_contra hc
        exact Option.some_ne_none t (hn.symm.trans (last?_eq_none_iff.2 hc))
  exact ⟨hlisted, Except.ok.inj (h.symm.trans (hok hlisted))⟩

/-- **Items are typed exactly if every name has a type,** and then they are put in one after the
other. -/
theorem typedItems_eq_ok_iff {rs : List RecordItem} {is : Items} :
    typedItems entries Items.empty rs = .ok is ↔
      (∀ r ∈ rs, ∀ n ∈ r.columns, n ∈ entries.map Prod.fst) ∧
      is = Items.ofList (rs.map fun r => (r.item, typedSpec entries r)) := by
  suffices h : ∀ start, typedItems entries start rs = .ok is ↔
      (∀ r ∈ rs, ∀ n ∈ r.columns, n ∈ entries.map Prod.fst) ∧
      is = (rs.map fun r => (r.item, typedSpec entries r)).foldl
        (fun is e => is.insert e.1 e.2) start from h Items.empty
  intro start
  induction rs generalizing start with
  | nil =>
    rw [typedItems]
    exact ⟨fun h => ⟨fun r hr => absurd hr List.not_mem_nil, (Except.ok.inj h).symm⟩,
      fun h => congrArg Except.ok h.2.symm⟩
  | cons r rs ih =>
    rw [typedItems, List.forall_mem_cons]
    rcases hcols : typedColumns entries r.item r.columns with fault | cs
    · refine iff_of_false error_ne_ok fun h => ?_
      exact error_ne_ok (hcols.symm.trans (typedColumns_eq_ok_iff.2 ⟨h.1.1, rfl⟩))
    · obtain ⟨hlisted, rfl⟩ := typedColumns_eq_ok_iff.1 hcols
      refine (ih _).trans ⟨fun h => ⟨⟨hlisted, h.1⟩, h.2⟩, fun h => ⟨h.1.2, h.2⟩⟩

end Typed

/-! ### The raw spec -/

section Union

variable {entries : List (String × ColumnType)} {rs : List RecordItem} {is : Items}
  (h : typedItems entries Items.empty rs = .ok is)
include h

theorem entries_of_typedItems :
    is.entries = (standing rs).map fun r => (r.item, typedSpec entries r) := by
  rw [(typedItems_eq_ok_iff.1 h).2, entries_ofList]

/-- There is an item if the record names one. -/
theorem entries_eq_nil_iff : is.entries = [] ↔ rs = [] := by
  rw [entries_of_typedItems h, List.map_eq_nil_iff, standing_eq_nil_iff]

variable {raw : RawSpec} (hraw : RawSpec.ofItems? is = some raw)
include hraw

/-- **The names of the union** are those of the items that are left, where they are first met. -/
theorem map_name_union : raw.union.map Column.name = unionNames (standing rs) := by
  rw [(RawSpec.ofItems?_eq_some_iff.1 hraw).2.1, RawSpec.map_name_gather, unionNames, Items.columns,
    entries_of_typedItems h, List.flatMap_map, List.map_flatMap]
  congr 1
  refine List.flatMap_congr fun r _ => ?_
  rw [typedSpec, List.map_map]
  exact List.map_id _

/-- Every name of the union has a type. -/
theorem mem_of_mem_union {u : Column} (hu : u ∈ raw.union) : u.name ∈ entries.map Prod.fst := by
  have hname : u.name ∈ unionNames (standing rs) :=
    map_name_union h hraw ▸ List.mem_map_of_mem hu
  obtain ⟨r, hr, hn⟩ := List.mem_flatMap.1 (List.mem_eraseDups.1 hname)
  exact (typedItems_eq_ok_iff.1 h).1 r (mem_of_mem_standing hr) _ hn

/-- **The types of the union** are those that the names are given. -/
theorem type_of_mem_union {u : Column} (hu : u ∈ raw.union) : u.type = typeIn entries u.name := by
  have hself : is.typedBy (typeIn entries) = is := Items.typedBy_eq_self
    (typedBy_of_typedItems (fun d hd => absurd hd List.not_mem_nil) h)
  have hmap := RawSpec.ofItems?_typedBy (typeIn entries) is
  rw [hself, hraw, Option.map_some] at hmap
  -- the union has been given its types, too
  rw [Option.some.inj hmap] at hu
  obtain ⟨d, -, rfl⟩ := List.mem_map.1 hu
  rfl

end Union

end Record

end OneTable
