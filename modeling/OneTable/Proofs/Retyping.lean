import OneTable.Proofs.Lookup

/-!
# Items whose columns agree about their types

The items of a group may disagree about the type of a column: one has seen integers only,
another has seen floats as well, a third has seen nothing at all. The raw spec of the group
settles the matter with the narrowest type that holds all cells. What becomes of the raw spec
when the items are told the result, and every column of every item is given the type that its
name has in the union?

Nothing, but that it is certain of every type: the settled type is a fixed point of settling.
For this it does not matter where the types come from. Giving types by name commutes with
merging columns, because columns that are merged have one name, and so one type, and because a
type joined with itself is the type. Then it commutes with gathering the columns of a list, and
with all that is made of it.

* `OneTable.Column.typedBy`, `OneTable.Items.typedBy`, `OneTable.RawSpec.typedBy` – columns,
  items and raw specs with types given by name;
* `OneTable.RawSpec.ofItems?_typedBy` – **the raw spec of items with types given by name** is
  the raw spec of the items, with the same types;
* `OneTable.RawSpec.typeOf` – the type of a name in the union, with
  `OneTable.RawSpec.map_typedBy_typeOf`;
* `OneTable.Column.SettledBy`, `OneTable.Items.typedBy_typeOf_eq_self_iff` – columns that have
  the type of the union already.
-/

namespace OneTable

/-- A column of the type that its name is given. -/
def Column.typedBy (types : String → ColumnType) (c : Column) : Column :=
  Column.ofType c.name (types c.name)

namespace Column

variable (types : String → ColumnType)

@[simp]
theorem name_typedBy (c : Column) : (c.typedBy types).name = c.name := rfl

@[simp]
theorem type_typedBy (c : Column) : (c.typedBy types).type = types c.name := rfl

/-- Types are given by name alone. -/
theorem map_name_map_typedBy (cs : List Column) :
    (cs.map (typedBy types)).map name = cs.map name := by
  rw [List.map_map]
  rfl

/-- Columns of one name that have been given their type have nothing to settle. -/
theorem merge_typedBy {c d : Column} (h : d.name = c.name) :
    (d.typedBy types).merge (c.typedBy types) = (d.merge c).typedBy types := by
  have hmerge : (d.typedBy types).merge (c.typedBy types) =
      ofType d.name ((types d.name).join (types c.name)) := rfl
  rw [hmerge, ← h, ColumnType.join_self, typedBy, name_merge]

end Column

/-! ### Gathering -/

namespace RawSpec

variable (types : String → ColumnType)

theorem addColumn_typedBy (c : Column) (ds : List Column) :
    addColumn (c.typedBy types) (ds.map (Column.typedBy types)) =
      (addColumn c ds).map (Column.typedBy types) := by
  induction ds with
  | nil => rfl
  | cons d ds ih =>
    rw [List.map_cons, addColumn, addColumn, Column.name_typedBy, Column.name_typedBy]
    by_cases h : d.name = c.name
    · rw [if_pos h, if_pos h, List.map_cons, Column.merge_typedBy types h]
    · rw [if_neg h, if_neg h, List.map_cons, ih]

theorem gatherInto_typedBy (gathered cs : List Column) :
    gatherInto (gathered.map (Column.typedBy types)) (cs.map (Column.typedBy types)) =
      (gatherInto gathered cs).map (Column.typedBy types) := by
  induction cs generalizing gathered with
  | nil => rfl
  | cons c cs ih =>
    -- the columns gathered so far have their types when the next one comes
    have hstep := ih (addColumn c gathered)
    rwa [← addColumn_typedBy] at hstep

/-- **Giving types by name commutes with gathering.** -/
theorem gather_typedBy (cs : List Column) :
    gather (cs.map (Column.typedBy types)) = (gather cs).map (Column.typedBy types) :=
  gatherInto_typedBy types [] cs

/-- Every name is gathered, and no other. -/
theorem mem_map_name_gatherInto {gathered cs : List Column} {n : String} :
    n ∈ (gatherInto gathered cs).map Column.name ↔
      n ∈ gathered.map Column.name ∨ n ∈ cs.map Column.name := by
  induction cs generalizing gathered with
  | nil => exact ⟨Or.inl, fun h => h.resolve_right List.not_mem_nil⟩
  | cons c cs ih =>
    refine ih.trans ?_
    rw [map_name_addColumn, List.map_cons, List.mem_cons]
    by_cases hc : c.name ∈ gathered.map Column.name
    · rw [if_pos hc]
      refine ⟨fun h => h.imp_right Or.inr, ?_⟩
      rintro (hn | rfl | hn)
      · exact Or.inl hn
      · exact Or.inl hc
      · exact Or.inr hn
    · rw [if_neg hc, List.mem_append, List.mem_singleton, or_assoc]

end RawSpec

/-! ### Items and raw specs -/

/-- Items whose columns have the types that their names are given. -/
def Items.typedBy (types : String → ColumnType) (is : Items) : Items where
  entries := is.entries.map fun e => (e.1, ⟨e.2.columns.map (Column.typedBy types)⟩)
  distinct := by
    rw [List.map_map]
    exact is.distinct

/-- A raw spec whose columns have the types that their names are given. -/
def RawSpec.typedBy (types : String → ColumnType) (raw : RawSpec) : RawSpec where
  union := raw.union.map (Column.typedBy types)
  intersection := raw.intersection.map (Column.typedBy types)
  distinct := by
    rw [Column.map_name_map_typedBy]
    exact raw.distinct
  shared := raw.shared.map _

namespace Items

variable (types : String → ColumnType) (is : Items)

/-- Items of the same specs under the same names are the same items. -/
theorem eq_of_entries_eq {is is' : Items} (h : is.entries = is'.entries) : is = is' := by
  cases is
  cases is'
  cases h
  rfl

theorem columns_typedBy : (is.typedBy types).columns = is.columns.map (Column.typedBy types) := by
  rw [columns, columns, List.map_flatMap, typedBy, List.flatMap_map]

theorem shares_typedBy (n : String) : (is.typedBy types).shares n = is.shares n := by
  rw [shares, shares, typedBy, List.all_map]
  refine List.all_congr rfl fun e => ?_
  rw [Function.comp_apply, TableSpec.contains, TableSpec.contains, List.any_map]
  rfl

end Items

namespace RawSpec

/-- **The raw spec of items with types given by name** is the raw spec of the items, with the
same types. -/
theorem ofItems?_typedBy (types : String → ColumnType) (is : Items) :
    ofItems? (is.typedBy types) = (ofItems? is).map (typedBy types) := by
  have hempty : (is.typedBy types).entries = [] ↔ is.entries = [] := List.map_eq_nil_iff
  by_cases h : is.entries = []
  · rw [ofItems?, ofItems?, if_pos h, if_pos (hempty.2 h)]
    rfl
  · rw [ofItems?, ofItems?, if_neg h, if_neg (mt hempty.1 h), Option.map_some, typedBy]
    simp only [Items.columns_typedBy, gather_typedBy, Items.shares_typedBy, List.filter_map]
    rfl

/-- The names of the columns of all items are those of the union. -/
theorem mem_union_of_mem_columns {is : Items} {raw : RawSpec} (h : ofItems? is = some raw)
    {c : Column} (hc : c ∈ is.columns) : c.name ∈ raw.union.map Column.name := by
  rw [(ofItems?_eq_some_iff.1 h).2.1]
  exact mem_map_name_gatherInto.2 (.inr (List.mem_map_of_mem hc))

/-! ### The types of a raw spec -/

variable (raw : RawSpec)

/-- **The type of a name** in the union. A name that the union does not have reads as text. -/
def typeOf (n : String) : ColumnType :=
  ((raw.unionColumn? n).map Column.type).getD .string

variable {raw}

theorem typeOf_of_mem {c : Column} (h : c ∈ raw.union) : raw.typeOf c.name = c.type := by
  rw [typeOf, raw.unionColumn?_eq_some_iff.2 ⟨h, rfl⟩]
  rfl

theorem typeOf_of_mem_relevant {mode : FilterMode} {c : Column} (h : c ∈ raw.relevant mode) :
    raw.typeOf c.name = c.type :=
  typeOf_of_mem ((raw.relevant_sublist mode).subset h)

theorem relevant_typedBy (types : String → ColumnType) (mode : FilterMode) :
    (raw.typedBy types).relevant mode = (raw.relevant mode).map (Column.typedBy types) := by
  cases mode <;> rfl

/-- **The types of the union are a fixed point:** giving them by name changes nothing that is
read off names and types. -/
theorem map_typedBy_typeOf {α : Type} (f : String → ColumnType → α) (mode : FilterMode) :
    ((raw.typedBy raw.typeOf).relevant mode).map (fun d => f d.name d.type) =
      (raw.relevant mode).map fun d => f d.name d.type := by
  rw [relevant_typedBy, List.map_map]
  exact List.map_congr_left fun c hc => congrArg (f c.name) (typeOf_of_mem_relevant hc)

theorem unionIndex?_typedBy (types : String → ColumnType) (n : String) :
    (raw.typedBy types).unionIndex? n = raw.unionIndex? n := by
  rw [unionIndex?, unionIndex?, typedBy, List.findIdx?_map]
  rfl

theorem length_relevant_typedBy (types : String → ColumnType) (mode : FilterMode) :
    ((raw.typedBy types).relevant mode).length = (raw.relevant mode).length := by
  rw [relevant_typedBy, List.length_map]

end RawSpec

/-! ### Settled columns -/

/-- **A column of an item is settled** by a raw spec: it is certain of its type, and this is the
type of the union. -/
def Column.SettledBy (raw : RawSpec) (c : Column) : Prop :=
  c.typed = true ∧ ∃ u ∈ raw.union, u.name = c.name ∧ u.type = c.type

section Settled

variable {raw : RawSpec} {is : Items}

/-- Giving the types of the union to items settles their columns. -/
theorem Items.settledBy_of_mem_typedBy (h : RawSpec.ofItems? is = some raw) {c : Column}
    (hc : c ∈ (is.typedBy raw.typeOf).columns) : c.SettledBy raw := by
  rw [columns_typedBy] at hc
  obtain ⟨d, hd, rfl⟩ := List.mem_map.1 hc
  obtain ⟨u, hu, hn⟩ := List.mem_map.1 (RawSpec.mem_union_of_mem_columns h hd)
  refine ⟨rfl, u, hu, hn, ?_⟩
  rw [Column.type_typedBy, ← hn, RawSpec.typeOf_of_mem hu]

/-- A settled column has nothing to be given. -/
theorem Column.SettledBy.typedBy_eq {c : Column} (h : c.SettledBy raw) :
    c.typedBy raw.typeOf = c := by
  obtain ⟨htyped, u, hu, hn, htype⟩ := h
  rw [Column.typedBy, ← hn, RawSpec.typeOf_of_mem hu, hn, htype, Column.ofType, ← htyped]

/-- Columns that have been given their types by name are settled: so are those of the union. -/
theorem Items.settledBy_of_typedBy_eq (h : RawSpec.ofItems? is = some raw)
    {types : String → ColumnType} (hself : is.typedBy types = is) :
    ∀ c ∈ is.columns, c.SettledBy raw := by
  have hcols : is.columns.map (Column.typedBy types) = is.columns := by
    rw [← columns_typedBy, hself]
  have hraw : raw.typedBy types = raw := by
    have hmap := RawSpec.ofItems?_typedBy types is
    rw [hself, h, Option.map_some] at hmap
    exact (Option.some.inj hmap).symm
  intro c hc
  obtain ⟨u, hu, hn⟩ := List.mem_map.1 (RawSpec.mem_union_of_mem_columns h hc)
  -- both columns have been given the type of their name
  rw [← hcols] at hc
  obtain ⟨d, -, rfl⟩ := List.mem_map.1 hc
  refine ⟨rfl, u, hu, hn, ?_⟩
  rw [← hraw] at hu
  obtain ⟨v, -, rfl⟩ := List.mem_map.1 hu
  exact congrArg types hn

/-- Items are left as they are where all their columns are. -/
theorem Items.typedBy_eq_self {types : String → ColumnType}
    (h : ∀ c ∈ is.columns, c.typedBy types = c) : is.typedBy types = is := by
  refine Items.eq_of_entries_eq ((List.map_congr_left fun e he => ?_).trans (List.map_id _))
  have hcols : e.2.columns.map (Column.typedBy types) = e.2.columns :=
    (List.map_congr_left fun c hc => h c (List.mem_flatMap.2 ⟨e, he, hc⟩)).trans (List.map_id _)
  rw [hcols]
  rfl

/-- **Items are left as they are** exactly if all their columns are settled. -/
theorem Items.typedBy_typeOf_eq_self_iff (h : RawSpec.ofItems? is = some raw) :
    is.typedBy raw.typeOf = is ↔ ∀ c ∈ is.columns, c.SettledBy raw :=
  ⟨settledBy_of_typedBy_eq h, fun hall => typedBy_eq_self fun c hc => (hall c hc).typedBy_eq⟩

end Settled

end OneTable
