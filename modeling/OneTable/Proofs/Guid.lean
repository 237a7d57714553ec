import Mathlib.Algebra.Group.Nat.Defs
import Mathlib.Tactic.Common
import OneTable.Guid
import OneTable.Proofs.Trimming

/-!
# Identifiers are read back

The text of an identifier is its grouped form, without a scheme, without braces and without
blanks. Taking the dashes out of it leaves 32 hexadecimal digits, and these say the 128 bits. So
an identifier that was written in some other form, in upper case, in braces or in one run, is the
same identifier when it has been shown and read again.

* `OneTable.Guid.hexNumber?_hexDigits` – the digits of a number are read as the number;
* `OneTable.Guid.parseGrouped?_groups` – the grouped form is its digits without the dashes;
* `OneTable.readGuid?_text` – **identifiers are read back**.
-/

namespace OneTable

namespace Guid

/-! ### Hexadecimal digits -/

theorem hexValue?_hexDigit : ∀ n < 16, hexValue? (hexDigit n) = some n := by
  decide

/-- A digit of a text is none of the characters that are taken away around it. -/
theorem plain_hexDigit : ∀ n < 16,
    Text.isBlank (hexDigit n) = false ∧ isBrace (hexDigit n) = false := by
  decide

theorem hexNumber?_append_singleton (cs : List Char) (c : Char) :
    hexNumber? (cs ++ [c]) = (hexNumber? cs).bind fun n => (hexValue? c).map (16 * n + ·) := by
  rw [hexNumber?, List.foldl_append]
  rfl

/-- **The last digits of a number** are read as what is left of it. -/
theorem hexNumber?_hexDigits (count n : ℕ) :
    hexNumber? (hexDigits count n) = some (n % 16 ^ count) := by
  induction count generalizing n with
  | zero => rw [Nat.pow_zero, Nat.mod_one]; rfl
  | succ count ih =>
    have hdigit := hexValue?_hexDigit (n % 16) (Nat.mod_lt n (by decide))
    have hvalue : 16 * (n / 16 % 16 ^ count) + n % 16 = n % 16 ^ (count + 1) := by
      rw [Nat.pow_succ', Nat.mod_mul, Nat.add_comm]
    rw [hexDigits, hexNumber?_append_singleton, ih, Option.bind_some, hdigit, Option.map_some,
      hvalue]

theorem exists_digit_of_mem_hexDigits {count n : ℕ} {c : Char} (h : c ∈ hexDigits count n) :
    ∃ d < 16, c = hexDigit d := by
  induction count generalizing n with
  | zero => exact absurd h List.not_mem_nil
  | succ count ih =>
    rcases List.mem_append.1 h with h | h
    · exact ih h
    · exact ⟨n % 16, Nat.mod_lt n (by decide), List.mem_singleton.1 h⟩

/-! ### The grouped form -/

/-- The digits of an identifier, and its text, in five groups. -/
theorem exists_groups (g : Guid) : ∃ a b c d e : List Char, a.length = 8 ∧ b.length = 4 ∧
    c.length = 4 ∧ d.length = 4 ∧ e.length = 12 ∧
    hexDigits 32 g.bits.toNat = a ++ b ++ c ++ d ++ e ∧
    g.text = a ++ '-' :: b ++ '-' :: c ++ '-' :: d ++ '-' :: e := by
  have hlength := length_hexDigits 32 g.bits.toNat
  refine ⟨_, _, _, _, _, ?_, ?_, ?_, ?_, ?_, ?_, rfl⟩
  · simp [hlength]
  · simp [hlength]
  · simp [hlength]
  · simp [hlength]
  · simp [hlength]
  · -- each group of four is the beginning of what is left
    have hgroup : ∀ (ds : List Char) (i : ℕ),
        (ds.drop i).take 4 ++ ds.drop (i + 4) = ds.drop i := by
      intro ds i
      rw [← List.drop_drop, List.take_append_drop]
    rw [List.append_assoc, List.append_assoc, List.append_assoc, hgroup, hgroup, hgroup,
      List.take_append_drop]

/-- **The grouped form is its digits without the dashes.** -/
theorem parseGrouped?_groups {a b c d e : List Char} (ha : a.length = 8) (hb : b.length = 4)
    (hc : c.length = 4) (hd : d.length = 4) (he : e.length = 12) :
    parseGrouped? (a ++ '-' :: b ++ '-' :: c ++ '-' :: d ++ '-' :: e) =
      parseSimple? (a ++ b ++ c ++ d ++ e) := by
  simp [parseGrouped?, List.drop_append, List.drop_eq_nil_of_le, ha, hb, hc, hd,
    he]

theorem length_text (g : Guid) : g.text.length = 36 := by
  obtain ⟨a, b, c, d, e, ha, hb, hc, hd, he, -, htext⟩ := g.exists_groups
  rw [htext]
  simp [ha, hb, hc, hd, he]

theorem text_ne_nil (g : Guid) : g.text ≠ [] :=
  List.ne_nil_of_length_pos (by rw [g.length_text]; decide)

/-- **The text of an identifier is a written form of it.** -/
theorem parse?_text (g : Guid) : parse? g.text = some g := by
  obtain ⟨a, b, c, d, e, ha, hb, hc, hd, he, hdigits, htext⟩ := g.exists_groups
  have hbits : g.bits.toNat % 16 ^ 32 = g.bits.toNat :=
    Nat.mod_eq_of_lt (Nat.lt_of_lt_of_le g.bits.isLt (by decide))
  have hsimple : parseSimple? (hexDigits 32 g.bits.toNat) = some g := by
    rw [parseSimple?, if_pos (length_hexDigits _ _), hexNumber?_hexDigits, hbits, Option.map_some,
      BitVec.ofNat_toNat, BitVec.setWidth_eq]
  -- with its dashes the text is too long to be 32 digits
  have hnone : parseSimple? g.text = none := by
    rw [parseSimple?, if_neg (by rw [g.length_text]; decide)]
  have hgrouped : parseGrouped? g.text = some g := by
    rw [htext, parseGrouped?_groups ha hb hc hd he, ← hdigits, hsimple]
  unfold parse?
  simp only [hnone, hgrouped]

/-- No character of the text is taken away as a blank or as a brace. -/
theorem plain_of_mem_text {g : Guid} {x : Char} (h : x ∈ g.text) :
    Text.isBlank x = false ∧ isBrace x = false := by
  obtain ⟨a, b, c, d, e, -, -, -, -, -, hdigits, htext⟩ := g.exists_groups
  have hx : x = '-' ∨ x ∈ hexDigits 32 g.bits.toNat := by
    rw [hdigits]
    rw [htext] at h
    clear hdigits htext
    simp only [List.mem_append, List.mem_cons] at h ⊢
    tauto
  rcases hx with rfl | hx
  · decide
  · obtain ⟨n, hn, rfl⟩ := exists_digit_of_mem_hexDigits hx
    exact plain_hexDigit n hn

end Guid

/-- **The text of an identifier is read as the identifier.** -/
theorem readGuid?_text (g : Guid) : readGuid? g.text = some g := by
  have htrim : Text.trim g.text = g.text :=
    Text.trim_eq_self_of_forall fun _ hx => (Guid.plain_of_mem_text hx).1
  have hbraces : ∀ cs : List Char, (∀ x ∈ cs, isBrace x = false) → cs.dropWhile isBrace = cs := by
    intro cs hcs
    cases cs with
    | nil => rfl
    | cons x cs => rw [List.dropWhile_cons, hcs x List.mem_cons_self]; rfl
  have hunbraced : unbraced g.text = g.text := by
    rw [unbraced, htrim, hbraces _ fun x hx => (Guid.plain_of_mem_text hx).2,
      hbraces _ fun x hx => (Guid.plain_of_mem_text (List.mem_reverse.1 hx)).2,
      List.reverse_reverse]
  rw [readGuid?, hunbraced, g.parse?_text]

end OneTable
