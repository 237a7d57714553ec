import Mathlib.Data.List.Nodup
import OneTable.Model.Basic

/-!
# Looking things up by name

Columns, transformations and the columns of a raw spec are all found by name, with the first
hit winning. Where no name is listed twice the first hit is the only one, and then a lookup
says no more and no less than membership. This file proves that once, for a list of anything
that has a name, and reads it off for the three kinds of list.

* `OneTable.find?_key_eq_some_iff`, `OneTable.findIdx?_key_eq_some_iff` – lookups in a list
  whose keys differ;
* `OneTable.RawSpec.distinct_relevant` – the columns that a filter mode shows have different
  names;
* `OneTable.Model.get?_eq_some_iff`, `OneTable.Model.position?_eq_some_iff` – the settings and
  the position of a column of a model.
-/

namespace OneTable

section Keys

variable {α β : Type} {key : α → β} {l : List α} {n : β}

/-- Keys that differ make equal keys equal entries. -/
theorem eq_of_key_eq (hd : (l.map key).Nodup) {a b : α} (ha : a ∈ l) (hb : b ∈ l)
    (h : key a = key b) : a = b :=
  List.inj_on_of_nodup_map hd ha hb h

variable [DecidableEq β]

theorem find?_key_eq_none_iff : (l.find? fun a => key a = n) = none ↔ n ∉ l.map key := by
  rw [List.find?_eq_none, List.mem_map]
  constructor
  · rintro h ⟨a, ha, hn⟩
    exact h a ha (decide_eq_true hn)
  · exact fun h a ha hn => h ⟨a, ha, of_decide_eq_true hn⟩

/-- **A lookup is membership** in a list whose keys differ. -/
theorem find?_key_eq_some_iff (hd : (l.map key).Nodup) {a : α} :
    (l.find? fun a => key a = n) = some a ↔ a ∈ l ∧ key a = n := by
  constructor
  · intro h
    exact ⟨List.mem_of_find?_eq_some h, by simpa using List.find?_some h⟩
  · rintro ⟨ha, rfl⟩
    rcases hf : l.find? fun b => key b = key a with _ | b
    · exact absurd (List.mem_map_of_mem ha) (find?_key_eq_none_iff.1 hf)
    · have hb : key b = key a := by simpa using List.find?_some hf
      rw [eq_of_key_eq hd (List.mem_of_find?_eq_some hf) ha hb]

/-- **The place of a name is where the name stands** in a list whose keys differ. -/
theorem findIdx?_key_eq_some_iff (hd : (l.map key).Nodup) {i : ℕ} :
    (l.findIdx? fun a => key a = n) = some i ↔ (l.map key)[i]? = some n := by
  rw [List.findIdx?_eq_some_iff_getElem, List.getElem?_eq_some_iff]
  constructor
  · rintro ⟨hi, hn, -⟩
    exact ⟨by simpa using hi, by simpa using hn⟩
  · rintro ⟨hi, hn⟩
    rw [List.length_map] at hi
    rw [List.getElem_map] at hn
    refine ⟨hi, by simpa using hn, fun j hj hjn => ?_⟩
    have hkey : (l.map key)[i]? = (l.map key)[j]? := by
      rw [List.getElem?_map, List.getElem?_map, List.getElem?_eq_getElem hi,
        List.getElem?_eq_getElem (by omega), Option.map_some, Option.map_some, hn]
      exact congrArg some (of_decide_eq_true hjn).symm
    exact absurd ((List.getElem?_inj (by simpa using hi) hd).1 hkey) (by omega)

end Keys

/-! ### Raw specs -/

namespace RawSpec

/-- The names of the columns that a filter mode shows, in raw order. -/
def shownNames (raw : RawSpec) (mode : FilterMode) : List String :=
  (raw.relevant mode).map Column.name

theorem relevant_sublist (raw : RawSpec) (mode : FilterMode) :
    (raw.relevant mode).Sublist raw.union := by
  cases mode with
  | union => exact List.Sublist.refl _
  | intersection => exact raw.shared

/-- **The columns that a filter mode shows have different names.** -/
theorem distinct_relevant (raw : RawSpec) (mode : FilterMode) :
    (raw.shownNames mode).Nodup :=
  raw.distinct.sublist ((raw.relevant_sublist mode).map Column.name)

theorem unionIndex?_eq_some_iff (raw : RawSpec) {n : String} {i : ℕ} :
    raw.unionIndex? n = some i ↔ (raw.union.map Column.name)[i]? = some n :=
  findIdx?_key_eq_some_iff raw.distinct

/-- A column of the union is found by its name where it stands. -/
theorem unionIndex?_of_getElem? {raw : RawSpec} {i : ℕ} {d : Column}
    (h : raw.union[i]? = some d) : raw.unionIndex? d.name = some i := by
  rw [unionIndex?_eq_some_iff, List.getElem?_map, h, Option.map_some]

theorem unionColumn?_eq_some_iff (raw : RawSpec) {n : String} {c : Column} :
    raw.unionColumn? n = some c ↔ c ∈ raw.union ∧ c.name = n :=
  find?_key_eq_some_iff raw.distinct

/-- A column that a filter mode shows is the raw column of its name. -/
theorem unionColumn?_of_mem_relevant {raw : RawSpec} {mode : FilterMode} {c : Column}
    (h : c ∈ raw.relevant mode) : raw.unionColumn? c.name = some c :=
  raw.unionColumn?_eq_some_iff.2 ⟨(raw.relevant_sublist mode).subset h, rfl⟩

end RawSpec

/-! ### Models -/

namespace Model

variable {m : Model} {n : String}

theorem get?_eq_none_iff : m.get? n = none ↔ n ∉ m.names :=
  find?_key_eq_none_iff

theorem get?_eq_some_iff (hd : m.names.Nodup) {t : Transformation} :
    m.get? n = some t ↔ t ∈ m.columns ∧ t.name = n :=
  find?_key_eq_some_iff hd

theorem position?_eq_some_iff (hd : m.names.Nodup) {i : ℕ} :
    m.position? n = some i ↔ m.names[i]? = some n :=
  findIdx?_key_eq_some_iff hd

/-- A lookup that hits gives a column of the model, of that name. -/
theorem mem_of_get?_eq_some {t : Transformation} (h : m.get? n = some t) :
    t ∈ m.columns ∧ t.name = n :=
  ⟨List.mem_of_find?_eq_some h, by simpa using List.find?_some h⟩

/-- **The positions of the columns are the numbers below their count,** each taken once. -/
theorem map_position?_names (hd : m.names.Nodup) :
    m.names.map m.position? = (List.range m.columns.length).map some := by
  refine List.ext_getElem? fun i => ?_
  rw [List.getElem?_map, List.getElem?_map]
  rcases hn : m.names[i]? with _ | n
  · have hi : m.columns.length ≤ i := by simpa [names] using hn
    rw [List.getElem?_eq_none (by simpa using hi)]
    rfl
  · have hi : i < m.columns.length := by
      have := (List.getElem?_eq_some_iff.1 hn).1
      simpa [names] using this
    rw [List.getElem?_range hi]
    simpa using (position?_eq_some_iff hd).2 hn

end Model

end OneTable
