import OneTable.RawSpec

/-!
# Types that are wide enough

The items of a group may each have seen another type in a column, and the raw spec of the group
has one type for all of them. This type is *wide enough* for each: what it has in common with the
type of an item is nothing but itself. A column that has seen nothing has no say in this, and it
takes nothing away from what others have seen.

There are not many types that are wide enough for another one. A type is wide enough for itself,
text is for every type, floats are for integers, and instants are for days
(`OneTable.ColumnType.widensTo_iff`); so whoever reads the cells of an item by the type of the
group has these four cases to think of.

* `OneTable.ColumnType.WidensTo` – one type is wide enough for another;
* `OneTable.Column.CoveredBy` – a column with evidence has a column of its name, of a type that
  is wide enough;
* `OneTable.RawSpec.coveredBy_gather` – **the columns of all items are covered** by those of the
  raw spec.
-/

namespace OneTable

/-! ### Wider types -/

namespace ColumnType

variable {t u v : ColumnType}

/-- **A type is wide enough for another:** what the two have in common is the type itself. -/
def WidensTo (t u : ColumnType) : Prop :=
  t.join u = u

theorem WidensTo.refl (t : ColumnType) : t.WidensTo t :=
  t.join_self

theorem widensTo_join (t u : ColumnType) : t.WidensTo (t.join u) := by
  rw [WidensTo, ← join_assoc, join_self]

theorem WidensTo.trans (h : t.WidensTo u) (h' : u.WidensTo v) : t.WidensTo v := by
  rw [WidensTo, ← h', ← join_assoc, h]

/-- **What is wide enough for a type:** the type itself, text, and in two cases one more type. -/
theorem widensTo_iff : t.WidensTo u ↔ u = t ∨ u = .string ∨ (t = .integer ∧ u = .float) ∨
    (t = .date ∧ u = .dateTime) := by
  unfold WidensTo
  cases t <;> cases u <;> decide

end ColumnType

/-! ### Columns of a name -/

namespace Column

/-- **A column is covered by others:** one of them has its name and has seen a type that is wide
enough. -/
def CoveredBy (c : Column) (us : List Column) : Prop :=
  ∃ u ∈ us, u.name = c.name ∧ u.typed = true ∧ c.type.WidensTo u.type

variable {c d : Column} {us : List Column}

/-- A column that has seen a type goes on having seen one, and this only becomes wider. -/
theorem merge_of_typed (c : Column) (h : d.typed = true) :
    (d.merge c).typed = true ∧ d.type.WidensTo (d.merge c).type := by
  rcases hc : c.typed with _ | _
  · rw [merge, h, hc]
    exact ⟨h, .refl d.type⟩
  · simp only [merge, h, hc]
    exact ⟨trivial, ColumnType.widensTo_join d.type c.type⟩

/-- What a column has seen is in what the two have seen together. -/
theorem merge_of_typed_right (h : c.typed = true) :
    (d.merge c).typed = true ∧ c.type.WidensTo (d.merge c).type := by
  rcases hd : d.typed with _ | _
  · rw [merge, hd, h]
    exact ⟨rfl, .refl c.type⟩
  · simp only [merge, hd, h]
    refine ⟨trivial, ?_⟩
    rw [ColumnType.join_comm]
    exact ColumnType.widensTo_join c.type d.type

theorem CoveredBy.cons (h : c.CoveredBy us) (d : Column) : c.CoveredBy (d :: us) := by
  obtain ⟨u, hu, hcover⟩ := h
  exact ⟨u, List.mem_cons_of_mem d hu, hcover⟩

end Column

namespace RawSpec

variable {c d : Column} {us cs : List Column}

/-- **A column with evidence is covered** once it is put in. -/
theorem coveredBy_addColumn_self (h : c.typed = true) (us : List Column) :
    c.CoveredBy (addColumn c us) := by
  induction us with
  | nil => exact ⟨c, List.mem_singleton_self c, rfl, h, .refl c.type⟩
  | cons u us ih =>
    rw [addColumn]
    by_cases hname : u.name = c.name
    · rw [if_pos hname]
      exact ⟨u.merge c, List.mem_cons_self, (u.name_merge c).trans hname,
        Column.merge_of_typed_right h⟩
    · rw [if_neg hname]
      exact ih.cons u

/-- A column that was covered is covered when another one is put in. -/
theorem coveredBy_addColumn (h : c.CoveredBy us) (d : Column) : c.CoveredBy (addColumn d us) := by
  induction us with
  | nil =>
    obtain ⟨u, hu, -⟩ := h
    exact absurd hu List.not_mem_nil
  | cons v us ih =>
    obtain ⟨u, hu, hname, htyped, hwide⟩ := h
    rw [addColumn]
    rcases List.mem_cons.1 hu with rfl | hu
    · by_cases hd : u.name = d.name
      · obtain ⟨htyped', hwide'⟩ := Column.merge_of_typed d htyped
        rw [if_pos hd]
        exact ⟨u.merge d, List.mem_cons_self, (u.name_merge d).trans hname, htyped',
          hwide.trans hwide'⟩
      · rw [if_neg hd]
        exact ⟨u, List.mem_cons_self, hname, htyped, hwide⟩
    · have hrest : c.CoveredBy us := ⟨u, hu, hname, htyped, hwide⟩
      by_cases hd : v.name = d.name
      · rw [if_pos hd]
        exact hrest.cons _
      · rw [if_neg hd]
        exact (ih hrest).cons v

theorem coveredBy_gatherInto (h : c.CoveredBy us) (cs : List Column) :
    c.CoveredBy (gatherInto us cs) := by
  induction cs generalizing us with
  | nil => exact h
  | cons d cs ih => exact ih (coveredBy_addColumn h d)

/-- **Every column with evidence is covered** by the columns that are gathered. -/
theorem coveredBy_gather (hc : c ∈ cs) (h : c.typed = true) : c.CoveredBy (gather cs) := by
  obtain ⟨before, behind, rfl⟩ := List.append_of_mem hc
  have hgather : gather (before ++ c :: behind) =
      gatherInto (addColumn c (gather before)) behind := List.foldl_append
  rw [hgather]
  exact coveredBy_gatherInto (coveredBy_addColumn_self h (gather before)) behind

/-- The columns of the items are covered by those of their raw spec. -/
theorem coveredBy_union {items : Items} {raw : RawSpec} (hraw : ofItems? items = some raw)
    (hc : c ∈ items.columns) (h : c.typed = true) : c.CoveredBy raw.union := by
  rw [(ofItems?_eq_some_iff.1 hraw).2.1]
  exact coveredBy_gather hc h

end RawSpec

end OneTable
