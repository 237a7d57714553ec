import Mathlib.Algebra.Group.Nat.Defs
import Mathlib.Algebra.Ring.Int.Defs
import Mathlib.Tactic.Common
import OneTable.Number.Decimal
import OneTable.Proofs.Result
import OneTable.Text.Blank

/-!
# Decimal digits are read back

Numbers are shown in many places: in names of columns, in days, in cells of integers. Everywhere
they are written by `OneTable.decimalDigits`, and what is asked of it is always the same: the
digits are digits, there is at least one, and their value is the number. So two numbers with the
same digits are the same number.

The reader of integers is more careful than the value of its digits, because it checks after every
digit that it is still within 64 bits. It goes away from zero with every digit, so that it has been
within them all the time if it is at the end.

* `OneTable.digitsValue_decimalDigits`, `OneTable.decimalDigits_injective` – digits and numbers;
* `OneTable.readDigits_eq` – the digits of an integer behind its sign;
* `OneTable.readInteger_integerText` – **the text of an integer is read as the integer**.
-/

namespace OneTable

/-! ### Digits -/

section Digits

variable {c : Char} {n m k : ℕ}

theorem isDigit_of_mem_decimalDigits (h : c ∈ decimalDigits n) : isDigit c = true :=
  Nat.isDigit_of_mem_toDigits (by decide) (by decide) h

theorem decimalDigits_ne_nil (n : ℕ) : decimalDigits n ≠ [] :=
  Nat.toDigits_ne_nil

@[simp]
theorem digitsValue_decimalDigits (n : ℕ) : digitsValue (decimalDigits n) = n :=
  Nat.ofDigitChars_ten_toDigits

/-- **Numbers with the same digits are the same number.** -/
theorem decimalDigits_injective : Function.Injective decimalDigits :=
  Function.LeftInverse.injective digitsValue_decimalDigits

/-- A number has at most `k` digits exactly if it is less than the `k`th power of ten. -/
theorem length_decimalDigits_le_iff (hk : 0 < k) : (decimalDigits n).length ≤ k ↔ n < 10 ^ k :=
  Nat.length_toDigits_le_iff (by decide) hk

theorem isDigit_iff : isDigit c = true ↔ '0' ≤ c ∧ c ≤ '9' := by
  simp [isDigit]

/-- A digit is no blank, and no sign or mark either. -/
theorem isBlank_of_isDigit (h : isDigit c = true) : Text.isBlank c = false := by
  obtain ⟨hlow, hhigh⟩ := isDigit_iff.1 h
  have h₁ : 48 ≤ c.toNat := hlow
  have h₂ : c.toNat ≤ 57 := hhigh
  simp only [Text.isBlank, Bool.or_eq_false_iff, Bool.and_eq_false_iff, decide_eq_false_iff_not,
    beq_eq_false_iff_ne]
  omega

theorem isBlank_of_mem_decimalDigits (h : c ∈ decimalDigits n) : Text.isBlank c = false :=
  isBlank_of_isDigit (isDigit_of_mem_decimalDigits h)

end Digits

/-! ### Integers -/

/-- No character of the text of an integer is a blank. -/
theorem isBlank_of_mem_integerText {n : ℤ} {c : Char} (h : c ∈ integerText n) :
    Text.isBlank c = false := by
  rw [integerText] at h
  split at h
  · rcases List.mem_cons.1 h with rfl | h
    · rfl
    · exact isBlank_of_mem_decimalDigits h
  · exact isBlank_of_mem_decimalDigits h

theorem integerText_ne_nil (n : ℤ) : integerText n ≠ [] := by
  rw [integerText]
  split
  · exact List.cons_ne_nil _ _
  · exact decimalDigits_ne_nil _

/-- A number on the side of zero that a sign tells. -/
def signed (negative : Bool) (n : ℕ) : ℤ :=
  if negative then -n else n

@[simp]
theorem signed_zero (negative : Bool) : signed negative 0 = 0 := by
  cases negative <;> rfl

/-- A digit takes a number further away from zero, on its side. -/
theorem signed_digit (negative : Bool) (n d : ℕ) :
    (if negative then signed negative n * 10 - d else signed negative n * 10 + d) =
      signed negative (10 * n + d) := by
  cases negative with
  | false => simp only [signed, Bool.false_eq_true, if_false]; omega
  | true => simp only [signed, if_true]; omega

/-- What is nearer to zero than an integer of 64 bits, on the same side, is one as well. -/
theorem fitInteger_signed {negative : Bool} {n k : ℕ} (hle : k ≤ n)
    (h : -2 ^ 63 ≤ signed negative n ∧ signed negative n < 2 ^ 63) :
    fitInteger (signed negative k) = .ok (signed negative k) := by
  have hpow : (Nat.pow 2 63 : ℕ) = 2 ^ 63 := rfl
  have hlow : ¬signed negative k < -Nat.pow 2 63 := by
    cases negative with
    | false => simp only [signed, Bool.false_eq_true, if_false] at h ⊢; omega
    | true => simp only [signed, if_true] at h ⊢; omega
  have hhigh : ¬(Nat.pow 2 63 : ℤ) ≤ signed negative k := by
    cases negative with
    | false => simp only [signed, Bool.false_eq_true, if_false] at h ⊢; omega
    | true => simp only [signed, if_true] at h ⊢; omega
  rw [fitInteger, if_neg hlow, if_neg hhigh]

/-- Digits only make a number larger. -/
theorem le_ofDigitChars (cs : List Char) (k : ℕ) : k ≤ Nat.ofDigitChars 10 cs k := by
  induction cs generalizing k with
  | nil => exact Nat.le_refl k
  | cons c cs ih =>
    rw [Nat.ofDigitChars_cons]
    exact Nat.le_trans (by omega) (ih _)

/-- **The digits of an integer of 64 bits** are read as the integer. What has been read so far is
nearer to zero, and the induction is on the digits that follow. -/
theorem readDigits_eq (negative : Bool) {cs : List Char} {k : ℕ}
    (hcs : ∀ c ∈ cs, isDigit c = true)
    (h : -2 ^ 63 ≤ signed negative (Nat.ofDigitChars 10 cs k) ∧
      signed negative (Nat.ofDigitChars 10 cs k) < 2 ^ 63) :
    readDigits negative cs (signed negative k) =
      .ok (signed negative (Nat.ofDigitChars 10 cs k)) := by
  induction cs generalizing k with
  | nil => rfl
  | cons c cs ih =>
    obtain ⟨hc, hcs⟩ := List.forall_mem_cons.1 hcs
    have hdigit : digitValue? c = some (c.toNat - '0'.toNat) := by
      rw [digitValue?, if_pos (isDigit_iff.1 hc)]
    rw [Nat.ofDigitChars_cons] at h ⊢
    have hfit := fitInteger_signed (le_ofDigitChars cs _) h
    simp only [readDigits, hdigit, signed_digit, hfit]
    exact ih hcs h

/-- Digits without a sign are read from the left. -/
theorem readSigned_of_digits {ds : List Char} (hne : ds ≠ [])
    (h : ∀ c ∈ ds, isDigit c = true) : readSigned ds = readDigits false ds 0 := by
  unfold readSigned
  split
  · exact absurd rfl hne
  · exact absurd (h '+' List.mem_cons_self) (by decide)
  · exact absurd (h '-' List.mem_cons_self) (by decide)
  · exact absurd (h '+' List.mem_cons_self) (by decide)
  · exact absurd (h '-' List.mem_cons_self) (by decide)
  · rfl

/-- **The text of an integer of 64 bits is read as the integer.** -/
theorem readInteger_integerText (n : Int64) : readInteger (integerText n.toInt) = .ok n := by
  have hdigits : ∀ c ∈ decimalDigits n.toInt.natAbs, isDigit c = true :=
    fun c hc => isDigit_of_mem_decimalDigits hc
  have hvalue : Nat.ofDigitChars 10 (decimalDigits n.toInt.natAbs) 0 = n.toInt.natAbs :=
    digitsValue_decimalDigits _
  have hlow : -2 ^ 63 ≤ n.toInt := n.le_toInt
  have hhigh : n.toInt < 2 ^ 63 := n.toInt_lt
  have hsigned : readSigned (integerText n.toInt) = .ok n.toInt := by
    rw [integerText]
    by_cases hneg : n.toInt < 0
    · have hself : signed true n.toInt.natAbs = n.toInt := by
        simp only [signed, if_true]
        omega
      have hread := readDigits_eq true (k := 0) hdigits
        (by rw [hvalue, hself]; exact ⟨hlow, hhigh⟩)
      rw [hvalue, hself, signed_zero] at hread
      rw [if_pos hneg, ← hread]
      -- behind the sign there is a digit
      rcases hds : decimalDigits n.toInt.natAbs with _ | ⟨d, ds⟩
      · exact absurd hds (decimalDigits_ne_nil _)
      · rfl
    · have hself : signed false n.toInt.natAbs = n.toInt := by
        simp only [signed, Bool.false_eq_true, if_false]
        omega
      have hread := readDigits_eq false (k := 0) hdigits
        (by rw [hvalue, hself]; exact ⟨hlow, hhigh⟩)
      rw [hvalue, hself, signed_zero] at hread
      rw [if_neg hneg, ← hread]
      exact readSigned_of_digits (decimalDigits_ne_nil _) hdigits
  rw [readInteger, hsigned]
  exact congrArg Except.ok n.ofInt_toInt

end OneTable
