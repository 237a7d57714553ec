import Mathlib.Data.List.Induction
import OneTable.Proofs.Retyping
import OneTable.Proofs.Widening

/-!
# What a raw spec says about its items

A raw spec is made by taking the columns of the items one at a time: a column of a name that was
met before is merged into the first of this name, and another one is put behind those that are
there. What is known of a name therefore changes while the columns are taken, and it may look as if
it depended on when they come.

It does not. What is known of a name at any time is what the columns of this name *say* that were
taken so far, and the others are not asked (`OneTable.RawSpec.known_gather`). A column says its type
if it has evidence for it, and else nothing; and of all that was said only the narrowest type is
kept that is wide enough for everything (`OneTable.ColumnType.common?`). For this it does not matter
who has spoken first, or how often.

So a raw spec can be said without taking columns (`OneTable.RawSpec.SumsUp`), and the order of the
items decides about nothing in it but the order of its columns.

* `OneTable.ColumnType.common?` – the narrowest type for many, with
  `OneTable.ColumnType.widensTo_iff_of_common?` and `OneTable.ColumnType.common?_perm`;
* `OneTable.typesUnder` – what is said under a name;
* `OneTable.RawSpec.SumsUp` – a raw spec sums up items;
* `OneTable.RawSpec.Reorders` – two raw specs differ in their order only;
* `OneTable.RawSpec.sumsUp_ofItems?` – **the raw spec of items sums them up,** in whatever order
  they are given.
-/

namespace OneTable

/-! ### The narrowest type for many -/

namespace ColumnType

variable {t u v : ColumnType} {ts us : List ColumnType}

/-- **The narrowest type that is wide enough for all of a list,** if there is one in it. -/
def common? : List ColumnType → Option ColumnType
  | [] => none
  | t :: ts => some (ts.foldl join t)

/-- One more type is joined to the others. -/
theorem common?_append_singleton (ts : List ColumnType) (t : ColumnType) :
    common? (ts ++ [t]) = some ((common? ts).elim t (·.join t)) := by
  cases ts with
  | nil => rfl
  | cons s ts => exact congrArg some List.foldl_append

/-- A type is wide enough for two exactly if it is wide enough for what they have in common. -/
theorem join_widensTo_iff : (t.join u).WidensTo v ↔ t.WidensTo v ∧ u.WidensTo v := by
  constructor
  · intro h
    exact ⟨(widensTo_join t u).trans h, ((join_comm u t) ▸ widensTo_join u t).trans h⟩
  · rintro ⟨ht, hu⟩
    rw [WidensTo, join_assoc, hu, ht]

/-- **A type is wide enough for all of a list** exactly if it is wide enough for the narrowest such
type. -/
theorem widensTo_iff_of_common? (h : common? ts = some u) :
    u.WidensTo v ↔ ∀ t ∈ ts, t.WidensTo v := by
  rcases ts with _ | ⟨t, ts⟩
  · exact absurd h.symm (Option.some_ne_none u)
  · obtain rfl := Option.some.inj h
    rw [List.forall_mem_cons]
    clear h
    induction ts generalizing t with
    | nil => simp
    | cons s ts ih => rw [List.foldl_cons, ih, join_widensTo_iff, List.forall_mem_cons, and_assoc]

/-- A list that is not empty has a narrowest type. -/
theorem common?_eq_none_iff : common? ts = none ↔ ts = [] := by
  cases ts with
  | nil => exact iff_of_true rfl rfl
  | cons t ts => exact iff_of_false nofun (List.cons_ne_nil t ts)

/-- Types that are wide enough for each other are the same. -/
theorem WidensTo.antisymm (h : t.WidensTo u) (h' : u.WidensTo t) : t = u := by
  rw [← h', join_comm, h]

/-- **The order of a list does not matter** for the narrowest type, because it does not matter for
which types are wide enough. -/
theorem common?_perm (h : ts.Perm us) : common? ts = common? us := by
  rcases ht : common? ts with _ | t <;> rcases hu : common? us with _ | u
  · rfl
  · rw [common?_eq_none_iff.1 ht] at h
    rw [← h.nil_eq] at hu
    exact absurd hu.symm (Option.some_ne_none u)
  · rw [common?_eq_none_iff.1 hu] at h
    rw [h.eq_nil] at ht
    exact absurd ht.symm (Option.some_ne_none t)
  · have hwide : ∀ v, t.WidensTo v ↔ u.WidensTo v := fun v => by
      rw [widensTo_iff_of_common? ht, widensTo_iff_of_common? hu]
      exact forall_congr' fun s => by rw [h.mem_iff]
    exact congrArg some (((hwide u).2 (.refl u)).antisymm ((hwide t).1 (.refl t)))

end ColumnType

/-! ### What is said under a name -/

/-- A column without evidence reads as text. -/
def Column.Plain (c : Column) : Prop :=
  c.typed = false → c.type = .string

instance (c : Column) : Decidable c.Plain :=
  inferInstanceAs (Decidable (c.typed = false → c.type = .string))

/-- **The types that columns say under a name,** those of them that have evidence. -/
def typesUnder (cs : List Column) (n : String) : List ColumnType :=
  (cs.filter fun c => c.name = n ∧ c.typed = true).map Column.type

section Said

variable {c : Column} {cs ds : List Column} {n : String}

/-- Every type that is said is the type of a column that says it. -/
theorem forall_mem_typesUnder_iff {p : ColumnType → Prop} :
    (∀ t ∈ typesUnder cs n, p t) ↔ ∀ c ∈ cs, c.name = n → c.typed = true → p c.type := by
  rw [typesUnder, List.forall_mem_map]
  simp [and_imp]

/-- Something is said as soon as one column says it. -/
theorem typesUnder_ne_nil_iff :
    typesUnder cs n ≠ [] ↔ ∃ c ∈ cs, c.name = n ∧ c.typed = true := by
  simp [typesUnder]

theorem typesUnder_append_singleton (cs : List Column) (c : Column) (n : String) :
    typesUnder (cs ++ [c]) n =
      typesUnder cs n ++ if c.name = n ∧ c.typed = true then [c.type] else [] := by
  rw [typesUnder, List.filter_append, List.map_append, List.filter_singleton]
  by_cases h : c.name = n ∧ c.typed = true <;> simp [typesUnder, h]

/-- What is said does not depend on the order of the columns but for its own order. -/
theorem typesUnder_perm (h : cs.Perm ds) (n : String) :
    (typesUnder cs n).Perm (typesUnder ds n) :=
  (h.filter _).map _

@[simp]
theorem Column.typed_ofEvidence (n : String) (e : Option ColumnType) :
    (ofEvidence n e).typed = e.isSome := by
  cases e <;> rfl

@[simp]
theorem Column.type_ofEvidence (n : String) (e : Option ColumnType) :
    (ofEvidence n e).type = e.getD .string := by
  cases e <;> rfl

/-- What is known and one more column make what is known then. -/
theorem Column.merge_ofEvidence (n : String) (e : Option ColumnType) (c : Column) :
    (ofEvidence n e).merge c =
      ofEvidence n (if c.typed = true then some (e.elim c.type (·.join c.type)) else e) := by
  rcases e with _ | t <;> rcases hc : c.typed with _ | _ <;>
    simp [merge, ofEvidence, ofType, untyped, hc]

/-- Where nothing is known of a name, its first column is what is known then. -/
theorem Column.Plain.merge_untyped (h : c.Plain) : (untyped c.name).merge c = c := by
  obtain ⟨name, type, typed⟩ := c
  cases typed with
  | false => simpa [merge, untyped, Plain, eq_comm] using h
  | true => rfl

end Said

namespace RawSpec

/-! ### What is known of a name -/

section Gathered

variable {c : Column} {cs ds : List Column} {n : String}

/-- **What is known of a name** from the columns that are gathered. -/
def known (ds : List Column) (n : String) : Column :=
  (ds.find? fun d => d.name = n).getD (Column.untyped n)

/-- A column that is put in is merged into what is known of its name. -/
theorem known_addColumn (h : c.Plain) (ds : List Column) (n : String) :
    known (addColumn c ds) n = if c.name = n then (known ds n).merge c else known ds n := by
  induction ds with
  | nil =>
    by_cases hn : c.name = n
    · subst hn
      simp [known, addColumn, h.merge_untyped]
    · simp [known, addColumn, hn]
  | cons d ds ih =>
    rw [addColumn]
    by_cases hd : d.name = c.name
    · rw [if_pos hd]
      by_cases hn : c.name = n
      · simp [known, hd, hn]
      · simp [known, hd, hn]
    · rw [if_neg hd]
      by_cases hn : d.name = n
      · have hc : c.name ≠ n := fun hc => hd (hn.trans hc.symm)
        simp [known, hn, hc]
      · simpa [known, hn] using ih

/-- **What is known of a name is what the columns of this name say.** -/
theorem known_gather (h : ∀ c ∈ cs, c.Plain) (n : String) :
    known (gather cs) n = Column.ofEvidence n (ColumnType.common? (typesUnder cs n)) := by
  induction cs using List.reverseRecOn with
  | nil => rfl
  | append_singleton cs c ih =>
    have hgather : gather (cs ++ [c]) = addColumn c (gather cs) := List.foldl_append
    rw [hgather, known_addColumn (h c (by simp)), ih fun d hd => h d (by simp [hd]),
      typesUnder_append_singleton, Column.merge_ofEvidence]
    by_cases hn : c.name = n
    · by_cases hc : c.typed = true
      · simp [hn, hc, ColumnType.common?_append_singleton]
      · simp [hn, hc]
    · simp [hn]

/-- One more name is listed unless it has been. -/
theorem eraseDups_append_singleton (ns : List String) (n : String) :
    (ns ++ [n]).eraseDups = if n ∈ ns then ns.eraseDups else ns.eraseDups ++ [n] := by
  rw [List.eraseDups_append]
  by_cases h : n ∈ ns
  · simp [List.removeAll, h]
  · simp [List.removeAll, h, List.eraseDups_cons]

/-- **Every name is listed once,** where it is first met. -/
theorem map_name_gather (cs : List Column) :
    (gather cs).map Column.name = (cs.map Column.name).eraseDups := by
  induction cs using List.reverseRecOn with
  | nil => rfl
  | append_singleton cs c ih =>
    have hgather : gather (cs ++ [c]) = addColumn c (gather cs) := List.foldl_append
    have hnames : (cs ++ [c]).map Column.name = cs.map Column.name ++ [c.name] := List.map_append
    simp only [hgather, map_name_addColumn, ih, hnames, eraseDups_append_singleton,
      List.mem_eraseDups]

end Gathered

/-! ### Raw specs -/

/-- **A raw spec sums up items:** what it says, without the order in which it was made. -/
structure SumsUp (raw : RawSpec) (is : Items) : Prop where
  /-- Every name that a column of an item has is listed once, where it is first met: item by item,
  and then column by column. -/
  names_eq : raw.union.map Column.name = (is.columns.map Column.name).eraseDups
  /-- A column has evidence if some column of its name has. -/
  typed_iff : ∀ u ∈ raw.union, u.typed = true ↔ ∃ c ∈ is.columns, c.name = u.name ∧ c.typed = true
  /-- Then its type is what the types with evidence come to when they are joined. -/
  type_eq : ∀ u ∈ raw.union, u.typed = true →
    ∃ t ts, typesUnder is.columns u.name = t :: ts ∧ u.type = ts.foldl ColumnType.join t
  /-- It is the narrowest of the types that are wide enough for them. -/
  narrowest : ∀ u ∈ raw.union, u.typed = true → ∀ t,
    u.type.WidensTo t ↔ ∀ c ∈ is.columns, c.name = u.name → c.typed = true → c.type.WidensTo t
  /-- Else the column reads as text. -/
  text : ∀ u ∈ raw.union, u.typed = false → u.type = .string
  /-- The columns whose names occur in every item are listed again, as they are and in their
  order. -/
  intersection_eq :
    raw.intersection = raw.union.filter fun u => ∀ e ∈ is.entries, u.name ∈ e.2.names

section Items

variable {raw raw' : RawSpec} {is is' : Items}

/-- A name is shared if it occurs in every item. -/
theorem shares_eq (is : Items) (n : String) :
    is.shares n = decide (∀ e ∈ is.entries, n ∈ e.2.names) := by
  rw [Bool.eq_iff_iff, decide_eq_true_iff, Items.shares, List.all_eq_true]
  refine forall₂_congr fun e _ => ?_
  simp [TableSpec.contains, TableSpec.names]

/-- **A column of the raw spec is what the columns of its name say.** -/
theorem eq_ofEvidence_of_mem_union (hraw : ofItems? is = some raw)
    (hplain : ∀ c ∈ is.columns, c.Plain) {u : Column} (hu : u ∈ raw.union) :
    u = Column.ofEvidence u.name (ColumnType.common? (typesUnder is.columns u.name)) := by
  have hfind : raw.unionColumn? u.name = some u := raw.unionColumn?_eq_some_iff.2 ⟨hu, rfl⟩
  rw [unionColumn?, (ofItems?_eq_some_iff.1 hraw).2.1] at hfind
  rw [← known_gather hplain, known, hfind, Option.getD_some]

/-- The raw spec of items sums them up. -/
theorem sumsUp_of_ofItems? (hraw : ofItems? is = some raw) (hplain : ∀ c ∈ is.columns, c.Plain) :
    raw.SumsUp is := by
  obtain ⟨-, hunion, hshared⟩ := ofItems?_eq_some_iff.1 hraw
  have hsaid := fun u (hu : u ∈ raw.union) => eq_ofEvidence_of_mem_union hraw hplain hu
  have htyped : ∀ u ∈ raw.union,
      u.typed = (ColumnType.common? (typesUnder is.columns u.name)).isSome := fun u hu =>
    (congrArg Column.typed (hsaid u hu)).trans (Column.typed_ofEvidence _ _)
  have htype : ∀ u ∈ raw.union,
      u.type = (ColumnType.common? (typesUnder is.columns u.name)).getD .string := fun u hu =>
    (congrArg Column.type (hsaid u hu)).trans (Column.type_ofEvidence _ _)
  -- a column with evidence has the narrowest type for what was said
  have hcommon : ∀ u ∈ raw.union, u.typed = true →
      ColumnType.common? (typesUnder is.columns u.name) = some u.type := by
    intro u hu h
    obtain ⟨t, ht⟩ := Option.isSome_iff_exists.1 ((htyped u hu).symm.trans h)
    rw [htype u hu, ht, Option.getD_some]
  exact {
    names_eq := by rw [hunion, map_name_gather]
    typed_iff := fun u hu => by
      rw [htyped u hu, Option.isSome_iff_ne_none, ne_eq, ColumnType.common?_eq_none_iff]
      exact typesUnder_ne_nil_iff
    type_eq := fun u hu h => by
      rcases hts : typesUnder is.columns u.name with _ | ⟨t, ts⟩
      · rw [htyped u hu, hts] at h
        exact absurd h Bool.false_ne_true
      · refine ⟨t, ts, rfl, ?_⟩
        have h' := hcommon u hu h
        rw [hts] at h'
        exact (Option.some.inj h').symm
    narrowest := fun u hu h t => by
      rw [ColumnType.widensTo_iff_of_common? (hcommon u hu h), forall_mem_typesUnder_iff]
    text := fun u hu h => by
      have hnone := Option.not_isSome_iff_eq_none.1 (by rw [← htyped u hu, h]; nofun)
      rw [htype u hu, hnone, Option.getD_none]
    intersection_eq := by
      rw [hshared]
      simp only [shares_eq] }

/-- **The intersection has a column** if some name occurs in every item. -/
theorem intersection_ne_nil_iff (hraw : ofItems? is = some raw) :
    raw.intersection ≠ [] ↔ ∃ n, ∀ e ∈ is.entries, n ∈ e.2.names := by
  obtain ⟨hitems, -, hshared⟩ := ofItems?_eq_some_iff.1 hraw
  have hmem : ∀ u, u ∈ raw.intersection ↔ u ∈ raw.union ∧ ∀ e ∈ is.entries, u.name ∈ e.2.names :=
    fun u => by rw [hshared, List.mem_filter, shares_eq, decide_eq_true_iff]
  constructor
  · intro h
    obtain ⟨u, hu⟩ := List.exists_mem_of_ne_nil _ h
    exact ⟨u.name, ((hmem u).1 hu).2⟩
  · rintro ⟨n, hn⟩
    -- there is an item, and so a column of the name, which the union then has
    obtain ⟨e, he⟩ := List.exists_mem_of_ne_nil _ hitems
    obtain ⟨c, hc, rfl⟩ := List.mem_map.1 (hn e he)
    have hcolumn : c ∈ is.columns := List.mem_flatMap.2 ⟨e, he, hc⟩
    obtain ⟨u, hu, hun⟩ := List.mem_map.1 (mem_union_of_mem_columns hraw hcolumn)
    exact List.ne_nil_of_mem ((hmem u).2 ⟨hu, hun ▸ hn⟩)

/-! ### Items in another order -/

/-- **A raw spec that lists the columns of another one,** each as it is there, perhaps in another
order. -/
structure Reorders (raw' raw : RawSpec) : Prop where
  union_perm : raw'.union.Perm raw.union
  intersection_perm : raw'.intersection.Perm raw.intersection
  /-- Under a name there is the same column, with its type and its evidence, or none. -/
  column_eq : ∀ n, raw'.unionColumn? n = raw.unionColumn? n
  /-- The same names are shared. -/
  shared_eq : ∀ n, raw'.inIntersection n = raw.inIntersection n

/-- **A column is in the union** if some item has its name and it is what is said under this
name. -/
theorem mem_union_iff (hraw : ofItems? is = some raw) (hplain : ∀ c ∈ is.columns, c.Plain)
    {u : Column} :
    u ∈ raw.union ↔ u.name ∈ is.columns.map Column.name ∧
      u = Column.ofEvidence u.name (ColumnType.common? (typesUnder is.columns u.name)) := by
  have hname : ∀ {n}, n ∈ raw.union.map Column.name ↔ n ∈ is.columns.map Column.name := by
    intro n
    rw [(sumsUp_of_ofItems? hraw hplain).names_eq, List.mem_eraseDups]
  constructor
  · intro hu
    exact ⟨hname.1 (List.mem_map_of_mem hu), eq_ofEvidence_of_mem_union hraw hplain hu⟩
  · rintro ⟨hn, heq⟩
    obtain ⟨v, hv, hvn⟩ := List.mem_map.1 (hname.2 hn)
    have hveq := eq_ofEvidence_of_mem_union hraw hplain hv
    rw [hvn, ← heq] at hveq
    exact hveq ▸ hv

/-- Two raw specs with the same columns and the same shared names differ in their order only. -/
theorem Reorders.of_mem_iff (hunion : ∀ u, u ∈ raw'.union ↔ u ∈ raw.union)
    (hshared : ∀ u, u ∈ raw'.intersection ↔ u ∈ raw.intersection) : raw'.Reorders raw := by
  have hperm : raw'.intersection.Perm raw.intersection :=
    (List.perm_ext_iff_of_nodup (raw'.distinct.of_map.sublist raw'.shared)
      (raw.distinct.of_map.sublist raw.shared)).2 fun u => hshared u
  exact {
    union_perm :=
      (List.perm_ext_iff_of_nodup raw'.distinct.of_map raw.distinct.of_map).2 fun u => hunion u
    intersection_perm := hperm
    column_eq := fun n => Option.ext fun u => by
      rw [raw'.unionColumn?_eq_some_iff, raw.unionColumn?_eq_some_iff, hunion]
    shared_eq := fun n => hperm.any_eq }

/-- **The raw spec of items in another order** is that of the items, but for the order. -/
theorem reorders_of_perm (hraw : ofItems? is = some raw) (hraw' : ofItems? is' = some raw')
    (hplain : ∀ c ∈ is.columns, c.Plain) (h : is'.entries.Perm is.entries) :
    raw'.Reorders raw := by
  have hcolumns : is'.columns.Perm is.columns := h.flatMap_right _
  have hplain' : ∀ c ∈ is'.columns, c.Plain := fun c hc => hplain c (hcolumns.mem_iff.1 hc)
  have hunion : ∀ u, u ∈ raw'.union ↔ u ∈ raw.union := fun u => by
    rw [mem_union_iff hraw' hplain', mem_union_iff hraw hplain, (hcolumns.map _).mem_iff,
      ColumnType.common?_perm (typesUnder_perm hcolumns u.name)]
  refine .of_mem_iff hunion fun u => ?_
  rw [(ofItems?_eq_some_iff.1 hraw).2.2, (ofItems?_eq_some_iff.1 hraw').2.2, List.mem_filter,
    List.mem_filter, hunion, Items.shares, Items.shares, h.all_eq]

/-- **The raw spec of items sums them up, in whatever order they are given.** There is one as soon
as there is an item. It lists every name once, where it is first met; under each it has the
narrowest type that is wide enough for all columns of this name that have evidence, or text if none
has; and it lists the columns again whose names occur in every item. With the items in another
order every name keeps its column, and whether it is shared. -/
theorem sumsUp_ofItems? (is : Items) (hitems : is.entries ≠ [])
    (hplain : ∀ c ∈ is.columns, c.Plain) :
    ∃ raw, ofItems? is = some raw ∧ raw.SumsUp is ∧
      ∀ is' : Items, is'.entries.Perm is.entries →
        ∃ raw', ofItems? is' = some raw' ∧ raw'.Reorders raw := by
  have hsome : ∀ {is : Items}, is.entries ≠ [] → ∃ raw, ofItems? is = some raw := fun h =>
    Option.ne_none_iff_exists'.1 (mt ofItems?_eq_none_iff.1 h)
  obtain ⟨raw, hraw⟩ := hsome hitems
  refine ⟨raw, hraw, sumsUp_of_ofItems? hraw hplain, fun is' hperm => ?_⟩
  obtain ⟨raw', hraw'⟩ := hsome fun hnil => hitems (List.nil_perm.1 (hnil ▸ hperm))
  exact ⟨raw', hraw', reorders_of_perm hraw hraw' hplain hperm⟩

/-- Two items that disagree about a column; one of them has it twice, and first without
evidence. -/
def twiceOrdered : Items :=
  .ofList [("east", ⟨[.untyped "order", .ofType "order" .integer, .ofType "day" .date]⟩),
    ("west", ⟨[.untyped "note", .ofType "order" .float]⟩)]

/-- The two items the other way round. -/
def twiceOrderedTurned : Items :=
  .ofList [("west", ⟨[.untyped "note", .ofType "order" .float]⟩),
    ("east", ⟨[.untyped "order", .ofType "order" .integer, .ofType "day" .date]⟩)]

/-- Only the order of the columns is another one when the items are turned round. -/
theorem sumsUp_ofItems?_twiceOrdered :
    ∃ raw raw' : RawSpec, ofItems? twiceOrdered = some raw ∧
      ofItems? twiceOrderedTurned = some raw' ∧ raw.SumsUp twiceOrdered ∧ raw'.Reorders raw ∧
      raw.union = [.ofType "order" .float, .ofType "day" .date, .untyped "note"] ∧
      raw'.union = [.untyped "note", .ofType "order" .float, .ofType "day" .date] ∧
      raw'.intersection = [.ofType "order" .float] := by
  obtain ⟨raw, hraw, hsum, hturned⟩ :=
    sumsUp_ofItems? twiceOrdered (by decide) (by decide)
  obtain ⟨raw', hraw', hreorders⟩ := hturned twiceOrderedTurned (by decide)
  obtain ⟨-, hunion, -⟩ := ofItems?_eq_some_iff.1 hraw
  obtain ⟨-, hunion', hshared'⟩ := ofItems?_eq_some_iff.1 hraw'
  refine ⟨raw, raw', hraw, hraw', hsum, hreorders, hunion.trans (by decide),
    hunion'.trans (by decide), ?_⟩
  rw [hshared', hunion']
  decide

end Items

end RawSpec

end OneTable
