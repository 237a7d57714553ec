import OneTable.Column
import OneTable.FilterMode

/-!
# Groups of items and their raw spec

The items of a group keep the order in which they were given. Their raw spec lists
every column name once, in the order in which the names are first met, item by item
and then column by column; the names that all items have form its second list, in
the same order. Where items disagree about a type, the raw spec carries the
narrowest type that holds the cells of all of them, and an item without evidence has
no say.

* `OneTable.Items` – the specs of a group, with `OneTable.Items.insert`;
* `OneTable.RawSpec` – the union and the intersection, with `OneTable.RawSpec.ofItems`;
* `OneTable.RawSpec.relevant` – the columns a filter mode shows.
-/

namespace OneTable

/-! ### Items -/

/-- The specs of the items of a group, in order. No item is listed twice. -/
structure Items where
  entries : List (String × TableSpec)
  distinct : (entries.map Prod.fst).Nodup
deriving DecidableEq

namespace Items

/-- No item. -/
def empty : Items := ⟨[], List.nodup_nil⟩

/-- Replaces the spec of an item where it stands, or puts a new item behind the others. -/
def insertEntry (item : String) (spec : TableSpec) :
    List (String × TableSpec) → List (String × TableSpec)
  | [] => [(item, spec)]
  | (i, s) :: rest => if i = item then (i, spec) :: rest else (i, s) :: insertEntry item spec rest

theorem insertEntry_of_notMem {item : String} {spec : TableSpec}
    {es : List (String × TableSpec)} (h : item ∉ es.map Prod.fst) :
    insertEntry item spec es = es ++ [(item, spec)] := by
  induction es with
  | nil => rfl
  | cons e es ih =>
    rw [List.map_cons, List.mem_cons, not_or] at h
    rw [insertEntry, if_neg (Ne.symm h.1), ih h.2, List.cons_append]

theorem map_fst_insertEntry_of_mem {item : String} {spec : TableSpec}
    {es : List (String × TableSpec)} (h : item ∈ es.map Prod.fst) :
    (insertEntry item spec es).map Prod.fst = es.map Prod.fst := by
  induction es with
  | nil => exact absurd h List.not_mem_nil
  | cons e es ih =>
    rw [insertEntry]
    by_cases hi : e.1 = item
    · rw [if_pos hi, List.map_cons, List.map_cons]
    · rw [if_neg hi, List.map_cons, List.map_cons,
        ih ((List.mem_cons.1 h).resolve_left (Ne.symm hi))]

theorem nodup_insertEntry (item : String) (spec : TableSpec) {es : List (String × TableSpec)}
    (h : (es.map Prod.fst).Nodup) : ((insertEntry item spec es).map Prod.fst).Nodup := by
  by_cases hm : item ∈ es.map Prod.fst
  · rwa [map_fst_insertEntry_of_mem hm]
  · rw [insertEntry_of_notMem hm, List.map_append, List.nodup_append]
    refine ⟨h, List.pairwise_singleton _ _, fun a ha b hb hab => ?_⟩
    rw [hab, List.mem_singleton.1 hb] at ha
    exact hm ha

/-- **Adds an item,** or replaces the spec of an item of the same name without moving it. -/
def insert (is : Items) (item : String) (spec : TableSpec) : Items :=
  ⟨insertEntry item spec is.entries, nodup_insertEntry item spec is.distinct⟩

/-- The items of a list, inserted one after the other. -/
def ofList (entries : List (String × TableSpec)) : Items :=
  entries.foldl (fun is e => is.insert e.1 e.2) empty

/-- The spec of an item. -/
def get? (is : Items) (item : String) : Option TableSpec :=
  (is.entries.find? fun e => e.1 = item).map Prod.snd

/-- The names of the items. -/
def names (is : Items) : List String :=
  is.entries.map Prod.fst

/-- A new item goes behind the others. -/
theorem entries_insert_of_notMem {is : Items} {item : String} (spec : TableSpec)
    (h : item ∉ is.names) : (is.insert item spec).entries = is.entries ++ [(item, spec)] :=
  insertEntry_of_notMem h

/-- The number of items. -/
def length (is : Items) : Nat :=
  is.entries.length

/-- The columns of all items, one item after the other. -/
def columns (is : Items) : List Column :=
  is.entries.flatMap fun e => e.2.columns

/-- Every item has a column of the name. -/
def shares (is : Items) (name : String) : Bool :=
  is.entries.all fun e => e.2.contains name

/-! ### Items that are put in -/

section Insert

variable {is : Items} {item : String} {spec : TableSpec}

/-- An item that is there is not listed again. -/
theorem names_insert_of_mem (h : item ∈ is.names) : (is.insert item spec).names = is.names :=
  map_fst_insertEntry_of_mem h

theorem names_insert_of_notMem (h : item ∉ is.names) :
    (is.insert item spec).names = is.names ++ [item] := by
  rw [names, entries_insert_of_notMem spec h, List.map_append]
  rfl

theorem mem_names_insert {n : String} :
    n ∈ (is.insert item spec).names ↔ n ∈ is.names ∨ n = item := by
  by_cases h : item ∈ is.names
  · rw [names_insert_of_mem h]
    refine ⟨Or.inl, ?_⟩
    rintro (hn | rfl)
    · exact hn
    · exact h
  · rw [names_insert_of_notMem h, List.mem_append, List.mem_singleton]

/-- What is listed after an item was put in was listed before, or it is the item. -/
theorem mem_insertEntry {e : String × TableSpec} {es : List (String × TableSpec)}
    (h : e ∈ insertEntry item spec es) : e = (item, spec) ∨ e ∈ es := by
  induction es with
  | nil => exact Or.inl (List.mem_singleton.1 h)
  | cons d es ih =>
    rw [insertEntry] at h
    split at h
    · next hd =>
      rcases List.mem_cons.1 h with rfl | h
      · exact Or.inl (congrArg (·, spec) hd)
      · exact Or.inr (List.mem_cons_of_mem d h)
    · rcases List.mem_cons.1 h with rfl | h
      · exact Or.inr List.mem_cons_self
      · exact (ih h).imp_right (List.mem_cons_of_mem d)

/-- A column of the items after one was put in is a column of theirs, or one of its own. -/
theorem mem_columns_insert {c : Column} (h : c ∈ (is.insert item spec).columns) :
    c ∈ is.columns ∨ c ∈ spec.columns := by
  obtain ⟨e, he, hc⟩ := List.mem_flatMap.1 h
  rcases mem_insertEntry he with rfl | he
  · exact Or.inr hc
  · exact Or.inl (List.mem_flatMap.2 ⟨e, he, hc⟩)

end Insert

end Items

/-! ### Raw specs -/

/-- The columns of a group: those of any item and those of every item. No name is listed
twice, and the columns of every item stand in the order of the others. -/
structure RawSpec where
  union : List Column
  intersection : List Column
  distinct : (union.map Column.name).Nodup
  shared : intersection.Sublist union
deriving DecidableEq

/-- What two occurrences of a column say together: evidence goes before none, and two
pieces of evidence are joined. -/
def Column.merge (old new : Column) : Column :=
  match old.typed, new.typed with
  | false, true => { old with type := new.type, typed := true }
  | true, true => { old with type := old.type.join new.type }
  | _, false => old

@[simp]
theorem Column.name_merge (old new : Column) : (old.merge new).name = old.name := by
  unfold Column.merge
  split <;> rfl

namespace RawSpec

/-- Merges a column into the first of its name, or puts it behind the others. -/
def addColumn (c : Column) : List Column → List Column
  | [] => [c]
  | d :: ds => if d.name = c.name then d.merge c :: ds else d :: addColumn c ds

theorem map_name_addColumn (c : Column) (ds : List Column) :
    (addColumn c ds).map Column.name =
      if c.name ∈ ds.map Column.name then ds.map Column.name
      else ds.map Column.name ++ [c.name] := by
  induction ds with
  | nil => rfl
  | cons d ds ih =>
    rw [addColumn]
    by_cases hd : d.name = c.name
    · rw [if_pos hd, List.map_cons, List.map_cons, Column.name_merge, hd,
        if_pos List.mem_cons_self]
    · rw [if_neg hd, List.map_cons, ih, List.map_cons]
      by_cases hm : c.name ∈ ds.map Column.name
      · rw [if_pos hm, if_pos (List.mem_cons_of_mem _ hm)]
      · rw [if_neg hm, if_neg fun h => hm ((List.mem_cons.1 h).resolve_left (Ne.symm hd)),
          List.cons_append]

theorem nodup_addColumn (c : Column) {ds : List Column} (h : (ds.map Column.name).Nodup) :
    ((addColumn c ds).map Column.name).Nodup := by
  rw [map_name_addColumn]
  split
  · exact h
  · next hm =>
    refine List.nodup_append.2 ⟨h, List.pairwise_singleton _ _, fun a ha b hb hab => ?_⟩
    rw [hab, List.mem_singleton.1 hb] at ha
    exact hm ha

/-- Merges the columns of a list, one after the other, into the columns gathered so far. -/
def gatherInto (gathered cs : List Column) : List Column :=
  cs.foldl (fun acc c => addColumn c acc) gathered

theorem nodup_gatherInto (cs : List Column) {gathered : List Column}
    (h : (gathered.map Column.name).Nodup) :
    ((gatherInto gathered cs).map Column.name).Nodup := by
  induction cs generalizing gathered with
  | nil => exact h
  | cons c cs ih => exact ih (nodup_addColumn c h)

/-- The distinct columns of a list, merged where names repeat. -/
def gather (cs : List Column) : List Column :=
  gatherInto [] cs

/-- **The raw spec of a group;** a group without items has none. -/
def ofItems? (is : Items) : Option RawSpec :=
  if is.entries = [] then none
  else
    let union := gather is.columns
    some {
      union := union
      intersection := union.filter fun c => is.shares c.name
      distinct := nodup_gatherInto _ List.nodup_nil
      shared := List.filter_sublist }

section Items

variable {raw : RawSpec} {is : Items}

/-- What the raw spec of items lists. -/
theorem ofItems?_eq_some_iff : ofItems? is = some raw ↔
    is.entries ≠ [] ∧ raw.union = gather is.columns ∧
      raw.intersection = raw.union.filter fun u => is.shares u.name := by
  rw [ofItems?]
  split
  · next h => exact iff_of_false (Option.some_ne_none raw).symm fun hc => hc.1 h
  · next h =>
    obtain ⟨union, intersection, distinct, shared⟩ := raw
    constructor
    · intro heq
      obtain ⟨rfl, rfl⟩ := RawSpec.mk.inj (Option.some.inj heq)
      exact ⟨h, rfl, rfl⟩
    · rintro ⟨-, hunion, hshared⟩
      obtain rfl : union = gather is.columns := hunion
      obtain rfl : intersection = (gather is.columns).filter fun u => is.shares u.name := hshared
      rfl

/-- There is a raw spec as soon as there is an item. -/
theorem ofItems?_eq_none_iff : ofItems? is = none ↔ is.entries = [] := by
  rw [ofItems?]
  split
  · next h => exact iff_of_true rfl h
  · next h => exact iff_of_false (Option.some_ne_none _) h

end Items

/-- The columns a filter mode shows. -/
def relevant (raw : RawSpec) : FilterMode → List Column
  | .union => raw.union
  | .intersection => raw.intersection

/-- The place of a name in the union. -/
def unionIndex? (raw : RawSpec) (name : String) : Option Nat :=
  raw.union.findIdx? fun c => c.name = name

/-- The union column of a name. -/
def unionColumn? (raw : RawSpec) (name : String) : Option Column :=
  raw.union.find? fun c => c.name = name

/-- The intersection has a column of the name. -/
def inIntersection (raw : RawSpec) (name : String) : Bool :=
  raw.intersection.any fun c => c.name = name

end RawSpec

end OneTable
