import OneTable.Proofs.Calendar.Patterns
import OneTable.Proofs.Reader.Typed

/-!
# What a cell means under a wider type

The column of an item may be read by another type than the one it was recognised as: where several
items have the column, it is read by the type of the union, which is wide enough for all of them.
This would be of little use if a cell were to say something else then, or were no longer a value.

Nothing of this kind happens. There are only four ways for a type to be wide enough for another,
and in each of them the wider type *takes* what the narrower one takes and says the same of it: the
same value for the same type, the cell as it stands for text, a float for an integer, and for a day
its midnight. Only the last could go wrong, since instants are looked for before days are: but a
text that is a day is no instant, by no pattern that there is
(`OneTable.Pattern.dateTime?_eq_none_of_date?`). And a cell is missing under all types or under
none, because for this it has to be empty.

* `OneTable.ConversionPath.convert_standard` – the path of a type to itself reads cells, and no
  more;
* `OneTable.Widens` – what a cell is under a type and under a wider one;
* `OneTable.widens_of_convert` – a wider type takes every cell, and widens it;
* `OneTable.RawSpec.widens_union` – **the type of the union widens the cells of every item**.
-/

namespace OneTable

variable {text : String} {t u : ColumnType} {v : Option Value}

/-! ### The path of a type to itself -/

namespace ConversionPath

/-- A cell that is not empty is not missing, whatever it is read as. -/
theorem readSource_ne_none (hne : text ≠ "") : readSource text t ≠ .ok none := by
  intro h
  have hcell : readCell text t ≠ .ok none := by
    intro hc
    rw [readCell, if_neg hne] at hc
    obtain ⟨w, -, hw⟩ := map_eq_ok_iff.1 hc
    exact absurd hw (Option.some_ne_none w)
  rw [readSource] at h
  split at h
  · next w hread => exact hcell (hread.trans h)
  · split at h
    · split at h
      · exact absurd (Except.ok.inj h) (Option.some_ne_none _)
      · exact absurd h error_ne_ok
    · exact absurd h error_ne_ok

/-- **The path of a type to itself reads cells of the type,** and has nothing to carry them to. -/
theorem convert_standard (ht : t ≠ .string) : (standard t).convert text = readSource text t := by
  by_cases hne : text = ""
  · subst hne
    rfl
  · rw [convert, if_neg hne, standard, between_destination, between_source, if_neg ht]
    rcases hread : readSource text t with cause | v
    · rfl
    · rcases v with _ | v
      · rfl
      · have hcast : Value.cast v t = .ok v := if_pos (type_of_readSource hread)
        exact congrArg (Except.map some) hcast

/-- A cell that is not empty is kept as it is by the path of text to itself. -/
theorem convert_standard_string (hne : text ≠ "") :
    (standard .string).convert text = .ok (some (.string text)) :=
  (if_neg hne).trans (if_pos rfl)

/-- **A cell is missing if it is empty,** under every type. -/
theorem convert_standard_eq_none_iff : (standard t).convert text = .ok none ↔ text = "" := by
  constructor
  · intro h
    by_contra hne
    by_cases ht : t = .string
    · rw [ht, convert_standard_string hne] at h
      exact absurd (Except.ok.inj h) (Option.some_ne_none _)
    · exact readSource_ne_none hne ((convert_standard ht).symm.trans h)
  · rintro rfl
    rfl

/-- A cell that is read under a type was taken by the reader of the type, unless this is the type of
instants, which takes days as well. -/
theorem readPresent_of_convert {x : Value} (hstring : t ≠ .string) (hinstant : t ≠ .dateTime)
    (h : (standard t).convert text = .ok (some x)) : readPresent text t = .ok x := by
  rw [convert_standard hstring, readSource] at h
  split at h
  · next w hread =>
    have hcell := hread.trans h
    rw [readCell] at hcell
    split at hcell
    · exact absurd (Except.ok.inj hcell) (Option.some_ne_none x).symm
    · obtain ⟨y, hy, hsame⟩ := map_eq_ok_iff.1 hcell
      exact Option.some.inj hsame ▸ hy
  · rw [if_neg hinstant] at h
    exact absurd h error_ne_ok

end ConversionPath

/-! ### Cells under two types -/

/-- **What a cell is under a type and under a wider one.** -/
structure Widens (t u : ColumnType) (text : String) (v w : Option Value) : Prop where
  /-- It is missing under both or under none. -/
  missing_iff : w = none ↔ v = none
  /-- Under the same type it has the same value. -/
  same : u = t → w = v
  /-- Under text it is what stands there. -/
  text : u = .string → ∀ x, v = some x → w = some (.string text)
  /-- A day is its midnight under instants. -/
  midnight : t = .date → u = .dateTime → ∀ x, v = some x →
    ∃ d, x = .date d ∧ w = some (.dateTime d.atMidnight)
  /-- An integer is a float under floats. -/
  float : t = .integer → u = .float → ∀ x, v = some x →
    ∃ n y, x = .integer n ∧ w = some (.float y)

/-- An empty cell is missing under both types. -/
theorem Widens.missing : Widens t u text none none where
  missing_iff := Iff.rfl
  same _ := rfl
  text _ _ h := absurd h.symm (Option.some_ne_none _)
  midnight _ _ _ h := absurd h.symm (Option.some_ne_none _)
  float _ _ _ h := absurd h.symm (Option.some_ne_none _)

open ConversionPath

section Present

variable {x : Value}

/-- Under the same type a cell has the same value. -/
theorem widens_self (h : (standard t).convert text = .ok (some x)) :
    Widens t t text (some x) (some x) where
  missing_iff := Iff.rfl
  same _ := rfl
  text ht y hy := by
    subst ht
    have hne : text ≠ "" := by
      rintro rfl
      exact absurd (Except.ok.inj h) (Option.some_ne_none x).symm
    exact (Except.ok.inj ((convert_standard_string hne).symm.trans h)).symm
  midnight ht hu := absurd (ht.symm.trans hu) (by decide)
  float ht hu := absurd (ht.symm.trans hu) (by decide)

/-- Under text a cell is what stands there. -/
theorem widens_string (ht : t ≠ .string) :
    Widens t .string text (some x) (some (.string text)) where
  missing_iff := iff_of_false (Option.some_ne_none _) (Option.some_ne_none _)
  same h := absurd h.symm ht
  text _ _ _ := rfl
  midnight _ h := absurd h (by decide)
  float _ h := absurd h (by decide)

/-- **What is an integer is a float.** -/
theorem exists_widens_float (hne : text ≠ "")
    (h : (standard .integer).convert text = .ok (some x)) :
    ∃ y, (standard .float).convert text = .ok (some (.float y)) ∧
      Widens .integer .float text (some x) (some (.float y)) := by
  have hread : readPresent text .integer = .ok x := readPresent_of_convert (by decide) (by decide) h
  rw [readPresent, mapError_eq_ok_iff] at hread
  obtain ⟨n, hn, rfl⟩ := map_eq_ok_iff.1 hread
  obtain ⟨y, hy⟩ := exists_readFloat_of_readInteger hn
  have hfloat : readPresent text .float = .ok (.float y) := by
    rw [readPresent, hy]
    rfl
  have hconvert : (standard .float).convert text = .ok (some (.float y)) :=
    (convert_standard (t := .float) (by decide)).trans (readSource_of_readPresent hne hfloat)
  refine ⟨y, hconvert, ?_⟩
  exact {
    missing_iff := iff_of_false (Option.some_ne_none _) (Option.some_ne_none _)
    same := fun h => absurd h (by decide)
    text := fun h => absurd h (by decide)
    midnight := fun h => absurd h (by decide)
    float := fun _ _ z hz => ⟨n, y, (Option.some.inj hz).symm, rfl⟩ }

/-- **What is a day is the midnight of the day,** and no other instant. -/
theorem exists_widens_dateTime (hne : text ≠ "")
    (h : (standard .date).convert text = .ok (some x)) :
    ∃ d : Date, (standard .dateTime).convert text = .ok (some (.dateTime d.atMidnight)) ∧
      Widens .date .dateTime text (some x) (some (.dateTime d.atMidnight)) := by
  have hread : readPresent text .date = .ok x := readPresent_of_convert (by decide) (by decide) h
  rw [readPresent, elim_eq_ok_iff] at hread
  obtain ⟨d, hd, rfl⟩ := Option.map_eq_some_iff.1 hread
  have hinstant : readSource text .dateTime = .ok (some (.dateTime d.atMidnight)) := by
    rw [readSource, readCell, if_neg hne, readPresent, readDateTime?_eq_none_of_readDate? hd, hd]
    rfl
  refine ⟨d, (convert_standard (t := .dateTime) (by decide)).trans hinstant, ?_⟩
  exact {
    missing_iff := iff_of_false (Option.some_ne_none _) (Option.some_ne_none _)
    same := fun h => absurd h (by decide)
    text := fun h => absurd h (by decide)
    midnight := fun _ _ z hz => ⟨d, (Option.some.inj hz).symm, rfl⟩
    float := fun h => absurd h (by decide) }

end Present

/-- **A wider type takes every cell that a type takes,** and widens it. -/
theorem widens_of_convert (hwide : t.WidensTo u) (h : (standard t).convert text = .ok v) :
    ∃ w, (standard u).convert text = .ok w ∧ Widens t u text v w := by
  rcases v with _ | x
  · obtain rfl := convert_standard_eq_none_iff.1 h
    exact ⟨none, rfl, .missing⟩
  · have hne : text ≠ "" := fun hc =>
      Option.some_ne_none x (Except.ok.inj (h.symm.trans (convert_standard_eq_none_iff.2 hc)))
    by_cases hsame : u = t
    · subst hsame
      exact ⟨some x, h, widens_self h⟩
    · rcases ColumnType.widensTo_iff.1 hwide with hu | rfl | ⟨rfl, rfl⟩ | ⟨rfl, rfl⟩
      · exact absurd hu hsame
      · exact ⟨_, convert_standard_string hne, widens_string (Ne.symm hsame)⟩
      · obtain ⟨y, hy, hwidens⟩ := exists_widens_float hne h
        exact ⟨_, hy, hwidens⟩
      · obtain ⟨d, hd, hwidens⟩ := exists_widens_dateTime hne h
        exact ⟨_, hd, hwidens⟩

/-! ### Cells of items -/

namespace RawSpec

/-- **The type of the union widens the cells of every item.** For every group of items and every
column of one of them that has evidence for its type, there is the column of the union, and what
the first type takes is taken by the second and is the same then, as far as it can be said in the
second type. In particular a text that is a day by some pattern is no instant by any pattern. -/
theorem widens_union (items : Items) {e : String × TableSpec} {c : Column}
    (he : e ∈ items.entries) (hc : c ∈ e.2.columns) (htyped : c.typed = true) :
    (∃ raw d, ofItems? items = some raw ∧ raw.unionColumn? c.name = some d ∧
      ∀ text v, (standard c.type).convert text = .ok v →
        ∃ w, (standard d.type).convert text = .ok w ∧ Widens c.type d.type text v w) ∧
    ∀ p ∈ Pattern.dates, ∀ q ∈ Pattern.dateTimes, ∀ (cs : List Char) (d : Date),
      p.date? cs = some d → q.dateTime? cs = none := by
  obtain ⟨raw, hraw⟩ : ∃ raw, ofItems? items = some raw :=
    Option.ne_none_iff_exists'.1 fun hnone =>
      List.ne_nil_of_mem he (ofItems?_eq_none_iff.1 hnone)
  have hcolumn : c ∈ items.columns := List.mem_flatMap.2 ⟨e, he, hc⟩
  obtain ⟨d, hd, hname, -, hwide⟩ := coveredBy_union hraw hcolumn htyped
  exact ⟨⟨raw, d, hraw, raw.unionColumn?_eq_some_iff.2 ⟨hd, hname⟩,
      fun text v h => widens_of_convert hwide h⟩,
    fun p hp q hq cs d h => Pattern.dateTime?_eq_none_of_date? hp hq h⟩

/-- Two items that disagree about every column that they share. -/
def disputedGroup : Items :=
  .ofList [("east", ⟨[.ofType "day" .date, .ofType "order" .integer, .ofType "note" .guid]⟩),
    ("west", ⟨[.ofType "order" .float, .ofType "day" .dateTime, .ofType "note" .boolean]⟩)]

/-- The first of February, with blanks around it, is a day to the first item and its midnight to
the group; it is no instant by itself, although it is written as the beginning of one. -/
theorem widens_union_disputed :
    ("east", ⟨[.ofType "day" .date, .ofType "order" .integer, .ofType "note" .guid]⟩) ∈
      disputedGroup.entries ∧
    (∃ raw d v w, ofItems? disputedGroup = some raw ∧ raw.unionColumn? "day" = some d ∧
      (standard .date).convert " 1/ 2/+2024 " = .ok v ∧
      (standard d.type).convert " 1/ 2/+2024 " = .ok w ∧
      v = some (.date ⟨2024, 2, 1, by decide⟩) ∧
      w = some (.dateTime ⟨⟨2024, 2, 1, by decide⟩, Time.midnight⟩) ∧
      Widens .date d.type " 1/ 2/+2024 " v w) ∧
    (Pattern.dmy '/' ++ .gap :: Pattern.hms).dateTime? "1/ 2/+2024".toList = none := by
  have he : ("east", (⟨[.ofType "day" .date, .ofType "order" .integer, .ofType "note" .guid]⟩ :
      TableSpec)) ∈ disputedGroup.entries := by
    decide
  obtain ⟨⟨raw, d, hraw, hd, hwidens⟩, hpatterns⟩ :=
    widens_union disputedGroup he (c := .ofType "day" .date) List.mem_cons_self rfl
  have hday : (standard .date).convert " 1/ 2/+2024 " =
      .ok (some (.date ⟨2024, 2, 1, by decide⟩)) := by
    decide +kernel
  have htype : (ofItems? disputedGroup).bind (fun raw => raw.unionColumn? "day") =
      some (.ofType "day" .dateTime) := by
    decide
  rw [hraw, Option.bind_some] at htype
  obtain rfl := Option.some.inj (hd.symm.trans htype)
  obtain ⟨w, hw, h⟩ := hwidens _ _ hday
  refine ⟨he, ⟨raw, _, _, w, hraw, hd, hday, hw, rfl, ?_, h⟩, ?_⟩
  · obtain ⟨d, hd, hmidnight⟩ := h.midnight rfl rfl _ rfl
    obtain rfl := Value.date.inj hd
    exact hmidnight
  · exact hpatterns (Pattern.dmy '/') (by decide) _ (by decide) _ ⟨2024, 2, 1, by decide⟩
      (by decide +kernel)

end RawSpec

end OneTable
