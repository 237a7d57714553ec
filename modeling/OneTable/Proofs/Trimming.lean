import Mathlib.Data.List.DropRight
import OneTable.Text.Blank

/-!
# Texts without blanks around them

A cell, a header and the name of a type are read without the blanks around them. What a text looks
like to them is therefore decided at its two ends: it is read as it stands exactly if it neither
begins nor ends with a blank, whatever stands in between.

* `OneTable.Text.trim_eq_self_iff` – the texts from which nothing is taken away;
* `OneTable.Text.trim_trim` – blanks are taken away once;
* `OneTable.Text.trim_eq_self_of_forall`, `OneTable.Text.trimStart_append` – a text without any
  blank is one of them, and stays one in front of other texts.
-/

namespace OneTable.Text

variable {cs : List Char}

theorem trimStart_eq_self_iff : trimStart cs = cs ↔ ∀ c ∈ cs.head?, isBlank c = false := by
  cases cs with
  | nil => exact iff_of_true rfl fun c hc => absurd hc (Option.not_mem_none c)
  | cons c cs =>
    rw [trimStart, List.dropWhile_eq_self_iff]
    simp

theorem trimEnd_eq_self_iff : trimEnd cs = cs ↔ ∀ c ∈ cs.getLast?, isBlank c = false := by
  have h : trimEnd cs = cs.rdropWhile isBlank := rfl
  rw [h, List.rdropWhile_eq_self_iff]
  constructor
  · intro hlast c hc
    obtain ⟨hne, rfl⟩ := List.mem_getLast?_eq_getLast hc
    exact Bool.eq_false_iff.2 (hlast hne)
  · intro hlast hne
    exact Bool.eq_false_iff.1 (hlast _ (List.getLast_mem_getLast? hne))

/-- **Nothing is taken away** from a text exactly if it neither begins nor ends with a blank. -/
theorem trim_eq_self_iff : trim cs = cs ↔
    (∀ c ∈ cs.head?, isBlank c = false) ∧ ∀ c ∈ cs.getLast?, isBlank c = false := by
  constructor
  · intro h
    -- what is left is no longer than what is left of the beginning
    have hstart : trimStart cs = cs := by
      have hsuffix : trimStart cs <:+ cs := List.dropWhile_suffix isBlank
      have hprefix : trim cs <+: trimStart cs := List.rdropWhile_prefix isBlank (trimStart cs)
      rw [h] at hprefix
      exact hsuffix.eq_of_length_le hprefix.length_le
    rw [trim, hstart] at h
    exact ⟨trimStart_eq_self_iff.1 hstart, trimEnd_eq_self_iff.1 h⟩
  · rintro ⟨hfirst, hlast⟩
    rw [trim, trimStart_eq_self_iff.2 hfirst, trimEnd_eq_self_iff.2 hlast]

/-- What starts with no blank and loses its last characters starts with no blank. -/
theorem trimStart_trim (cs : List Char) : trimStart (trim cs) = trim cs := by
  have hprefix : trim cs <+: trimStart cs := List.rdropWhile_prefix isBlank (trimStart cs)
  rcases htrim : trim cs with _ | ⟨c, rest⟩
  · rfl
  · rw [htrim] at hprefix
    obtain ⟨behind, hstart⟩ := hprefix
    have hself : trimStart (trimStart cs) = trimStart cs := List.dropWhile_idempotent isBlank cs
    rw [← hstart, List.cons_append] at hself
    have hblank : isBlank c = false := by
      by_contra h
      rw [trimStart_cons_of_blank (Bool.of_not_eq_false h)] at hself
      have hle : (trimStart (rest ++ behind)).length ≤ (rest ++ behind).length :=
        List.length_dropWhile_le _ _
      rw [hself, List.length_cons] at hle
      omega
    exact trimStart_cons_of_not_blank hblank

/-- **Blanks are taken away once.** -/
@[simp]
theorem trim_trim (cs : List Char) : trim (trim cs) = trim cs := by
  have hend : trimEnd (trim cs) = trim cs := List.rdropWhile_idempotent isBlank (trimStart cs)
  rw [trim, trimStart_trim, hend]

/-- A text without any blank is read as it stands. -/
theorem trim_eq_self_of_forall (h : ∀ c ∈ cs, isBlank c = false) : trim cs = cs :=
  trim_eq_self_iff.2
    ⟨fun c hc => h c (List.mem_of_mem_head? hc), fun c hc => h c (List.mem_of_getLast? hc)⟩

/-- A text without any blank keeps its place in front of what follows it. -/
theorem trimStart_append (hne : cs ≠ []) (h : ∀ c ∈ cs, isBlank c = false) (rest : List Char) :
    trimStart (cs ++ rest) = cs ++ rest := by
  rw [trimStart_eq_self_iff, List.head?_append_of_ne_nil _ hne]
  exact fun c hc => h c (List.mem_of_mem_head? hc)

end OneTable.Text
