import OneTable.Proofs.Inference
import OneTable.Proofs.Meaning

/-!
# Cells that say nothing

There are two places at which a cell may turn out to have nothing to say. While the type of its
column is recognised, a cell of blanks is passed over: it neither counts as evidence nor strikes
out a type. And when the cell is read, it may be a missing value.

These are not the same cells. The first question is asked of the cell without the blanks around it,
and the second one of the cell as it stands, although the readers of all types but text take the
blanks away as well. A cell of blanks that is not empty is therefore passed over at first, and then
it is no value: under no type but text is there one without a character that is not blank
(`OneTable.exists_readPresent_eq_error`). So the column of such a cell is given a type that the cell
is refused by.

* `OneTable.Evidence.Ignores` – a cell is passed over;
* `OneTable.Evidence.missing_or_refused_of_ignores` – **what is passed over is missing or refused,**
  according to whether it is empty;
* `OneTable.Evidence.not_missing_iff_ignores` – a cell that is passed over and refused.
-/

namespace OneTable

variable {text : String} {t : ColumnType}

/-- **A cell is passed over** when the type of its column is recognised: whatever is known of the
column, nothing is added to it. -/
def Evidence.Ignores (text : String) : Prop :=
  ∀ e : Evidence, e.add text = e

/-- A cell is passed over if it has no character but blanks. -/
theorem Evidence.ignores_iff : Ignores text ↔ Text.trim text.toList = [] := by
  constructor
  · intro h
    by_contra hspeaks
    -- where nothing is known, a cell that speaks is the first that has spoken
    have hspoken : (none.add text).spoken = true := by rw [add, if_neg hspeaks]
    rw [h none] at hspoken
    exact Bool.false_ne_true hspoken
  · intro hblank e
    rw [add, if_pos hblank]

/-- **No reader but that of text takes blanks.** -/
theorem exists_readPresent_eq_error (ht : t ≠ .string) (hblank : Text.trim text.toList = []) :
    ∃ cause, readPresent text t = .error cause := by
  cases t with
  | string => exact absurd rfl ht
  | guid =>
    have hnone : readGuid? text.toList = none := by
      rw [readGuid?, unbraced, hblank]
      rfl
    exact ⟨_, by rw [readPresent, hnone]; rfl⟩
  | _ => exact ⟨_, by rw [readPresent, hblank]; rfl⟩

/-- Blanks are refused by every type but text. -/
theorem ConversionPath.exists_refuses_of_blank (ht : t ≠ .string) (hne : text ≠ "")
    (hblank : Text.trim text.toList = []) :
    ∃ cause, (standard t).convert text = .error cause ∧ t.Refuses text cause := by
  obtain ⟨cause, hcause⟩ := exists_readPresent_eq_error ht hblank
  have hcell : readCell text t = .error cause := by
    rw [readCell, if_neg hne, hcause]
    rfl
  have hday : readDate? (Text.trim text.toList) = none := by
    rw [hblank]
    rfl
  refine ⟨cause, ?_, hcell, fun _ => hday⟩
  rw [convert_standard ht, readSource, hcell]
  split
  · next heq => exact absurd heq error_ne_ok
  · next heq =>
    obtain rfl := Except.error.inj heq
    simp only [hday, ite_self]

namespace Evidence

open ConversionPath

/-- **What is passed over is missing or refused.** A cell is passed over if it has no character but
blanks, and it is missing if it has no character at all; so what is missing is passed over. But what
is passed over and not empty is refused by every type other than text, along the path that a column
takes unless it is told otherwise. -/
theorem missing_or_refused_of_ignores (text : String) (ht : t ≠ .string) :
    (Ignores text ↔ Text.trim text.toList = []) ∧
    ((standard t).convert text = .ok Option.none ↔ text = "") ∧
    ((standard t).convert text = .ok Option.none → Ignores text) ∧
    (Ignores text → text ≠ "" →
      ∃ cause, (standard t).convert text = .error cause ∧ t.Refuses text cause) := by
  refine ⟨ignores_iff, convert_standard_eq_none_iff, fun h => ?_, fun h hne => ?_⟩
  · obtain rfl := convert_standard_eq_none_iff.1 h
    exact ignores_iff.2 rfl
  · exact exists_refuses_of_blank ht hne (ignores_iff.1 h)

/-- The empty cell and a cell of two blanks, one of them no character of ASCII, in a column of
days. -/
theorem missing_or_refused_of_ignores_days :
    ColumnType.date ≠ .string ∧
    Ignores "" ∧ (standard .date).convert "" = .ok Option.none ∧
    Ignores " \u3000" ∧ " \u3000" ≠ "" ∧
    ∃ cause, (standard .date).convert " \u3000" = .error cause ∧
      ColumnType.date.Refuses " \u3000" cause := by
  obtain ⟨-, hmissing, hignores, -⟩ :=
    missing_or_refused_of_ignores (t := .date) "" (by decide)
  obtain ⟨hblank, -, -, hrefused⟩ :=
    missing_or_refused_of_ignores (t := .date) " \u3000" (by decide)
  have hempty := hmissing.2 rfl
  have hignored := hblank.2 (by decide)
  exact ⟨by decide, hignores hempty, hempty, hignored, by decide, hrefused hignored (by decide)⟩

/-- **What is passed over need not be missing:** a blank in a column of integers. -/
theorem not_missing_iff_ignores :
    ¬∀ (text : String) (t : ColumnType), t ≠ .string →
      ((standard t).convert text = .ok Option.none ↔ Ignores text) := by
  intro h
  have hmissing := (h " " .integer (by decide)).2 (ignores_iff.2 (by decide))
  exact absurd (convert_standard_eq_none_iff.1 hmissing) (by decide)

end Evidence

end OneTable
