import Mathlib.Tactic.Common
import OneTable.Proofs.Encoding.Letters

/-!
# Letters of UTF-16

A letter of UTF-16 has one unit, or two if the first one is the first half of a pair. Every unit has
two bytes, so that not even ASCII stands for itself here: of what means something in a file, nothing
is a letter.

* `OneTable.Utf16.rule` – the rule whose letters are units and pairs of them;
* `OneTable.Utf16.decode?_eq` – **the text of bytes in UTF-16 is made up of letters**;
* `OneTable.Utf16.sound_rule` – the rule finds nothing but letters.
-/

namespace OneTable.Utf16

open Multibyte

variable {order : ByteOrder} {a b c d : UInt8} {r bytes : List UInt8}

/-- **The rule of UTF-16:** a unit that is no surrogate, or two units that are a pair of them. -/
def rule (order : ByteOrder) : Rule := fun a r =>
  match r with
  | [] => none
  | b :: r =>
    if isHigh (unit order a b) then
      match r with
      | c :: d :: _ =>
        if isLow (unit order c d) then
          some ([Char.ofNat (0x10000 + (unit order a b - 0xD800) * 0x400 +
            (unit order c d - 0xDC00))], 3)
        else none
      | _ => none
    else if isLow (unit order a b) then none
    else some ([Char.ofNat (unit order a b)], 1)

/-- A unit that is not the first half of a pair. -/
theorem characters?_cons {u : ℕ} (hhigh : isHigh u = false) (us : List ℕ) :
    characters? (u :: us) =
      if isLow u then none else (characters? us).map (Char.ofNat u :: ·) := by
  rw [characters?.eq_def]
  simp [hhigh]

theorem decode?_unit (hhigh : isHigh (unit order a b) = false)
    (hlow : isLow (unit order a b) = false) :
    decode? order (a :: b :: r) =
      (decode? order r).map (Char.ofNat (unit order a b) :: ·) := by
  rw [decode?, decode?, units?]
  cases units? order r with
  | none => rfl
  | some us => simp [characters?_cons hhigh, hlow]

theorem decode?_pair (hhigh : isHigh (unit order a b) = true)
    (hlow : isLow (unit order c d) = true) :
    decode? order (a :: b :: c :: d :: r) =
      (decode? order r).map (Char.ofNat (0x10000 + (unit order a b - 0xD800) * 0x400 +
        (unit order c d - 0xDC00)) :: ·) := by
  rw [decode?, decode?, units?, units?]
  cases units? order r with
  | none => rfl
  | some us => simp [characters?, hhigh, hlow]

/-- What the rule finds is a character of one unit or of two. -/
theorem rule_eq_some {cs : List Char} {count : ℕ} (h : rule order a r = some (cs, count)) :
    (∃ b rest, r = b :: rest ∧ isHigh (unit order a b) = false ∧ isLow (unit order a b) = false ∧
        cs = [Char.ofNat (unit order a b)] ∧ count = 1) ∨
      ∃ b c d rest, r = b :: c :: d :: rest ∧ isHigh (unit order a b) = true ∧
        isLow (unit order c d) = true ∧
        cs = [Char.ofNat (0x10000 + (unit order a b - 0xD800) * 0x400 +
          (unit order c d - 0xDC00))] ∧ count = 3 := by
  unfold rule at h
  split at h
  · exact absurd h.symm (Option.some_ne_none _)
  next b rest =>
  split at h
  · next hhigh =>
    split at h
    · next c d rest =>
      split at h
      · next hlow =>
        obtain ⟨rfl, rfl⟩ := Prod.mk.inj (Option.some.inj h)
        exact .inr ⟨b, c, d, rest, rfl, hhigh, hlow, rfl, rfl⟩
      · exact absurd h.symm (Option.some_ne_none _)
    · exact absurd h.symm (Option.some_ne_none _)
  next hhigh =>
  split at h
  · exact absurd h.symm (Option.some_ne_none _)
  · next hlow =>
    obtain ⟨rfl, rfl⟩ := Prod.mk.inj (Option.some.inj h)
    exact .inl ⟨b, rest, rfl, Bool.eq_false_iff.2 hhigh, Bool.eq_false_iff.2 hlow, rfl, rfl⟩

/-- Where the rule finds nothing there is no text. -/
theorem decode?_of_rule_eq_none (h : rule order a r = none) : decode? order (a :: r) = none := by
  unfold rule at h
  split at h
  · rfl
  next b rest =>
  rw [decode?, units?]
  split at h
  · next hhigh =>
    rcases rest with _ | ⟨c, _ | ⟨d, rest⟩⟩
    · simp [units?, characters?, hhigh]
    · simp [units?]
    · have hlow : isLow (unit order c d) = false := by simpa using h
      cases hunits : units? order rest with
      | none => simp [units?, hunits]
      | some us => simp [units?, hunits, characters?, hhigh, hlow]
  next hhigh =>
  have hlow : isLow (unit order a b) = true := by simpa using h
  cases units? order rest with
  | none => rfl
  | some us => simp [characters?_cons (Bool.eq_false_iff.2 hhigh), hlow]

/-- **The text of bytes in UTF-16 is made up of letters.** -/
theorem decode?_eq (order : ByteOrder) (bytes : List UInt8) :
    decode? order bytes = Multibyte.decode? (rule order) bytes := by
  induction bytes using Multibyte.decode?.induct (rule order) with
  | case1 => rw [Multibyte.decode?]; rfl
  | case2 a r cs count h ih =>
    rw [Multibyte.decode?, h]
    simp only
    rw [← ih]
    rcases rule_eq_some h with ⟨b, rest, rfl, hhigh, hlow, rfl, rfl⟩ |
      ⟨b, c, d, rest, rfl, hhigh, hlow, rfl, rfl⟩
    · exact decode?_unit hhigh hlow
    · exact decode?_pair hhigh hlow
  | case3 a r h =>
    rw [Multibyte.decode?, h]
    exact decode?_of_rule_eq_none h

theorem sound_rule (order : ByteOrder) : Sound (rule order) := by
  intro a r cs count h
  rcases rule_eq_some h with ⟨b, rest, rfl, hhigh, hlow, rfl, rfl⟩ |
    ⟨b, c, d, rest, rfl, hhigh, hlow, rfl, rfl⟩
  · exact ⟨[b], rest, rfl, rfl, .inl fun r => by simp [rule, hhigh, hlow]⟩
  · exact ⟨[b, c, d], rest, rfl, rfl, .inl fun r => by simp [rule, hhigh, hlow]⟩

end OneTable.Utf16
