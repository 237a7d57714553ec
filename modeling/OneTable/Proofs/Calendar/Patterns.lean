import Mathlib.Data.List.TakeWhile
import OneTable.Calendar.Pattern

/-!
# No text is a day and an instant

A day is read by the first of five patterns that fits, and an instant by the first of eight. A
column of instants takes days as well, but only where none of the eight patterns fits. So it has to
be asked whether a text could fit patterns of both kinds, and be an instant that is not the day at
midnight.

A pattern takes a text apart from left to right, and no item of it takes characters of every kind:
a field takes digits with blanks and a sign in front, a mark takes itself, and so on
(`OneTable.PatternItem.admits`). What fits a pattern is therefore made of characters that one of
its items admits, and it has every mark of the pattern. All eight patterns of instants have a
colon, which no item of a pattern of days admits.

* `OneTable.Pattern.exists_of_read?_cons` – what one item takes;
* `OneTable.Pattern.exists_admits_of_read?`, `OneTable.Pattern.mem_of_read?_mark` – what is in a
  text that fits a pattern, and what has to be in it;
* `OneTable.Pattern.dateTime?_eq_none_of_date?` – **no text fits patterns of both kinds**.
-/

namespace OneTable

/-- The characters that an item of a pattern takes. -/
def PatternItem.admits : PatternItem → Char → Bool
  | .field _, c => Text.isBlank c || isDigit c || c == '-' || c == '+'
  | .mark d, c => c == d
  | .gap, c => Text.isBlank c
  | .fraction, c => isDigit c || c == '.'

/-! ### What an item takes -/

section Taken

variable {cs r : List Char}

/-- A number takes digits. -/
theorem exists_digits_of_takeNumber {width n : ℕ} (h : takeNumber width cs = some (n, r)) :
    ∃ ds, cs = ds ++ r ∧ ∀ c ∈ ds, isDigit c = true := by
  rw [takeNumber] at h
  split at h
  · exact absurd h.symm (Option.some_ne_none _)
  · obtain ⟨-, rfl⟩ := Prod.mk.inj (Option.some.inj h)
    have hprefix : (cs.takeWhile isDigit).take width <+: cs :=
      (List.take_prefix _ _).trans (List.takeWhile_prefix _)
    refine ⟨_, (List.prefix_iff_eq_append.1 hprefix).symm, fun c hc => ?_⟩
    exact List.mem_takeWhile_imp (List.mem_of_mem_take hc)

/-- A year takes digits, and perhaps a sign in front of them. -/
theorem exists_taken_of_takeYear {n : ℤ} (h : takeYear cs = some (n, r)) :
    ∃ taken, cs = taken ++ r ∧ ∀ c ∈ taken, isDigit c = true ∨ c = '-' ∨ c = '+' := by
  unfold takeYear at h
  split at h
  all_goals
    obtain ⟨⟨m, rest⟩, hnumber, heq⟩ := Option.map_eq_some_iff.1 h
    obtain ⟨-, rfl⟩ := Prod.mk.inj heq
    obtain ⟨ds, rfl, hds⟩ := exists_digits_of_takeNumber hnumber
  · exact ⟨'-' :: ds, rfl, List.forall_mem_cons.2 ⟨.inr (.inl rfl), fun c hc => .inl (hds c hc)⟩⟩
  · exact ⟨'+' :: ds, rfl, List.forall_mem_cons.2 ⟨.inr (.inr rfl), fun c hc => .inl (hds c hc)⟩⟩
  · exact ⟨ds, rfl, fun c hc => .inl (hds c hc)⟩

variable {fs fs' : Fields}

/-- **A field takes digits,** with blanks and perhaps a sign in front of them. -/
theorem Fields.exists_taken_of_take {f : Field} (h : fs.take f cs = some (fs', r)) :
    ∃ taken, cs = taken ++ r ∧ ∀ c ∈ taken, (PatternItem.field f).admits c = true := by
  have hbehind : ∃ taken, Text.trimStart cs = taken ++ r ∧
      ∀ c ∈ taken, isDigit c = true ∨ c = '-' ∨ c = '+' := by
    cases f with
    | year =>
      obtain ⟨⟨n, rest⟩, hyear, heq⟩ := Option.map_eq_some_iff.1 h
      obtain ⟨-, rfl⟩ := Prod.mk.inj heq
      exact exists_taken_of_takeYear hyear
    | _ =>
      obtain ⟨⟨n, rest⟩, hnumber, heq⟩ := Option.map_eq_some_iff.1 h
      obtain ⟨-, rfl⟩ := Prod.mk.inj heq
      obtain ⟨ds, hcs, hds⟩ := exists_digits_of_takeNumber hnumber
      exact ⟨ds, hcs, fun c hc => .inl (hds c hc)⟩
  obtain ⟨taken, htaken, hall⟩ := hbehind
  refine ⟨cs.takeWhile Text.isBlank ++ taken, ?_, fun c hc => ?_⟩
  · rw [List.append_assoc, ← htaken, Text.trimStart, List.takeWhile_append_dropWhile]
  · rcases List.mem_append.1 hc with hc | hc
    · simp [PatternItem.admits, List.mem_takeWhile_imp hc]
    · rcases hall c hc with hdigit | rfl | rfl
      · simp [PatternItem.admits, hdigit]
      · rfl
      · rfl

/-- A fraction takes a point and digits, or nothing. -/
theorem Fields.exists_taken_of_takeFraction (h : fs.takeFraction cs = some (fs', r)) :
    ∃ taken, cs = taken ++ r ∧ ∀ c ∈ taken, PatternItem.fraction.admits c = true := by
  unfold takeFraction at h
  split at h
  · next rest =>
    dsimp only at h
    split at h
    · exact absurd h.symm (Option.some_ne_none _)
    · obtain ⟨-, rfl⟩ := Prod.mk.inj (Option.some.inj h)
      have hprefix : rest.takeWhile isDigit <+: rest := List.takeWhile_prefix _
      refine ⟨'.' :: rest.takeWhile isDigit,
        congrArg ('.' :: ·) (List.prefix_iff_eq_append.1 hprefix).symm,
        List.forall_mem_cons.2 ⟨rfl, fun c hc => ?_⟩⟩
      simp [PatternItem.admits, List.mem_takeWhile_imp hc]
  · obtain ⟨-, rfl⟩ := Prod.mk.inj (Option.some.inj h)
    exact ⟨[], rfl, fun c hc => absurd hc List.not_mem_nil⟩

end Taken

namespace Pattern

variable {i : PatternItem} {p q : Pattern} {cs : List Char} {fs fs' : Fields} {c : Char}

/-- **What fits a pattern begins with what its first item takes:** characters that the item admits,
and the mark itself if it is one. What follows fits the rest of the pattern. -/
theorem exists_of_read?_cons (h : read? (i :: p) cs fs = some fs') :
    ∃ taken rest between, cs = taken ++ rest ∧ (∀ c ∈ taken, i.admits c = true) ∧
      (∀ c, i = .mark c → c ∈ taken) ∧ read? p rest between = some fs' := by
  cases i with
  | field f =>
    obtain ⟨⟨between, rest⟩, htake, hrest⟩ := Option.bind_eq_some_iff.1 h
    obtain ⟨taken, hcs, hall⟩ := Fields.exists_taken_of_take htake
    exact ⟨taken, rest, between, hcs, hall, nofun, hrest⟩
  | mark d =>
    cases cs with
    | nil => exact absurd h.symm (Option.some_ne_none _)
    | cons c rest =>
      rw [read?] at h
      split at h
      · next hc =>
        subst hc
        exact ⟨[c], rest, fs, rfl, by simp [PatternItem.admits], by simp, h⟩
      · exact absurd h.symm (Option.some_ne_none _)
  | gap =>
    exact ⟨cs.takeWhile Text.isBlank, Text.trimStart cs, fs,
      (List.takeWhile_append_dropWhile ..).symm, fun c hc => List.mem_takeWhile_imp hc, nofun, h⟩
  | fraction =>
    obtain ⟨⟨between, rest⟩, htake, hrest⟩ := Option.bind_eq_some_iff.1 h
    obtain ⟨taken, hcs, hall⟩ := Fields.exists_taken_of_takeFraction htake
    exact ⟨taken, rest, between, hcs, hall, nofun, hrest⟩

/-- **Every character of a text that fits a pattern** is one that an item of the pattern admits. -/
theorem exists_admits_of_read? (h : p.read? cs fs = some fs') (hc : c ∈ cs) :
    ∃ i ∈ p, i.admits c = true := by
  induction p generalizing cs fs with
  | nil =>
    rw [read?] at h
    split at h
    · next hnil => exact absurd hc (hnil ▸ List.not_mem_nil)
    · exact absurd h.symm (Option.some_ne_none _)
  | cons i p ih =>
    obtain ⟨taken, rest, between, rfl, hall, -, hrest⟩ := exists_of_read?_cons h
    rcases List.mem_append.1 hc with hc | hc
    · exact ⟨i, List.mem_cons_self, hall c hc⟩
    · obtain ⟨j, hj, hadmits⟩ := ih hrest hc
      exact ⟨j, List.mem_cons_of_mem i hj, hadmits⟩

/-- **A text that fits a pattern has every mark of the pattern.** -/
theorem mem_of_read?_mark (h : p.read? cs fs = some fs') (hc : .mark c ∈ p) : c ∈ cs := by
  induction p generalizing cs fs with
  | nil => exact absurd hc List.not_mem_nil
  | cons i p ih =>
    obtain ⟨taken, rest, between, rfl, -, hmark, hrest⟩ := exists_of_read?_cons h
    rcases List.mem_cons.1 hc with hc | hc
    · exact List.mem_append_left rest (hmark c hc.symm)
    · exact List.mem_append_right taken (ih hrest hc)

/-- A pattern with a mark that no item of another pattern admits fits no text that the other one
fits. -/
theorem read?_eq_none_of_mark {fs₀ : Fields} (h : p.read? cs fs = some fs')
    (hmark : .mark c ∈ q) (hadmits : ∀ i ∈ p, i.admits c = false) : q.read? cs fs₀ = none := by
  by_contra hq
  obtain ⟨_, hq⟩ := Option.ne_none_iff_exists'.1 hq
  obtain ⟨i, hi, hc⟩ := exists_admits_of_read? h (mem_of_read?_mark hq hmark)
  exact absurd hc (Bool.eq_false_iff.1 (hadmits i hi))

/-- **No text fits a pattern of days and a pattern of instants.** -/
theorem dateTime?_eq_none_of_date? {d : Date} (hp : p ∈ dates) (hq : q ∈ dateTimes)
    (h : p.date? cs = some d) : q.dateTime? cs = none := by
  obtain ⟨fs, hread, -⟩ := Option.bind_eq_some_iff.1 h
  have hcolon : ∀ q ∈ dateTimes, PatternItem.mark ':' ∈ q := by decide
  have hno : ∀ p ∈ dates, ∀ i ∈ p, i.admits ':' = false := by decide
  rw [dateTime?, read?_eq_none_of_mark hread (hcolon q hq) (hno p hp)]
  rfl

end Pattern

/-- **What is read as a day is not read as an instant.** -/
theorem readDateTime?_eq_none_of_readDate? {cs : List Char} {d : Date}
    (h : readDate? cs = some d) : readDateTime? cs = none := by
  obtain ⟨p, hp, hday⟩ := List.exists_of_findSome?_eq_some h
  exact List.findSome?_eq_none_iff.2 fun q hq => Pattern.dateTime?_eq_none_of_date? hp hq hday

end OneTable
