import Mathlib.Tactic.Common
import OneTable.Proofs.Encoding.Letters

/-!
# Letters between escapes

Where escapes switch between tables, what a byte stands for depends on all the escapes in front of
it, and a file that is taken apart loses them. But sooner or later a writer comes back to ASCII.
From an escape to the one behind which ASCII is in force again, the bytes are an island in ASCII,
and an island is a letter of its own: it stands for its characters wherever it is. The end of the
bytes ends an island, too. An escape to ASCII where ASCII is in force stands for nothing.

What is read with islands as letters is what is read with escapes, but for one thing. Two escapes
may not follow each other without a character between them, so that a letter that ends with an
escape cannot stand in front of one that begins with an escape (`OneTable.Escaped.Crowded`).

* `OneTable.Escaped.rule` – the rule whose letters are bytes of ASCII, islands and idle escapes;
* `OneTable.Escaped.sound_rule` – it finds nothing but letters;
* `OneTable.Escaped.decode?_rule` – **what has a text has it under the rule**;
* `OneTable.Escaped.decode?_of_rule` – **what has a text under the rule has it**, unless it is
  crowded.
-/

namespace OneTable.Escaped

open Multibyte

/-- The escape behind which ASCII is in force. -/
def toAscii : List UInt8 := [escape, 0x28, 0x42]

/-- **The characters of an island,** from behind its first escape in a mode to the end of the escape
behind which ASCII is in force again, and how many bytes that takes. -/
def island? : Mode → Bool → List UInt8 → Option (List Char × Nat)
  | _, _, [] => some ([], 0)
  | m, switched, b :: r =>
    if b = escape then
      match r with
      | c :: d :: r =>
        if switched then none
        else
          match mode? c d with
          | some .ascii => some ([], 3)
          | some m => (island? m true r).map fun (cs, count) => (cs, count + 3)
          | none => none
      | _ => none
    else if m = .pairs then
      match r with
      | c :: r =>
        match cell? .jis0208 94 (from? 0x21 0x7E b) (from? 0x21 0x7E c) with
        | some ch => (island? m false r).map fun (cs, count) => (ch :: cs, count + 2)
        | none => none
      | [] => none
    else
      match char? m b with
      | some ch => (island? m false r).map fun (cs, count) => (ch :: cs, count + 1)
      | none => none

/-- **The rule whose letters are bytes of ASCII and islands in it,** and escapes to ASCII where
ASCII is in force. -/
def rule : Rule := fun b r =>
  if b = escape then
    match r with
    | c :: d :: r =>
      match mode? c d with
      | some .ascii => some ([], 2)
      | some m => (island? m true r).map fun (cs, count) => (cs, count + 2)
      | none => none
    | _ => none
  else more 0 (char? .ascii b)

/-! ### Steps -/

section Steps

variable {m m' : Mode} {switched : Bool} {b c d : UInt8} {ch : Char}

theorem eq_of_mode?_ascii (h : mode? c d = some .ascii) : c = 0x28 ∧ d = 0x42 := by
  unfold mode? at h
  split at h <;> simp_all

/-- A byte outside of escapes and pairs. -/
theorem decodeIn?_single (hb : b ≠ escape) (hm : m ≠ .pairs) (h : char? m b = some ch)
    (r : List UInt8) :
    decodeIn? m switched (b :: r) = (decodeIn? m false r).map (ch :: ·) := by
  rw [decodeIn?.eq_def]
  simp [hb, hm, h]

theorem island?_single (hb : b ≠ escape) (hm : m ≠ .pairs) (h : char? m b = some ch)
    (r : List UInt8) :
    island? m switched (b :: r) =
      (island? m false r).map fun (cs, count) => (ch :: cs, count + 1) := by
  rw [island?.eq_def]
  simp [hb, hm, h]

/-- A pair of bytes. -/
theorem decodeIn?_pair (hb : b ≠ escape)
    (h : cell? .jis0208 94 (from? 0x21 0x7E b) (from? 0x21 0x7E c) = some ch) (r : List UInt8) :
    decodeIn? .pairs switched (b :: c :: r) = (decodeIn? .pairs false r).map (ch :: ·) := by
  rw [decodeIn?.eq_def]
  simp [hb, h]

theorem island?_pair (hb : b ≠ escape)
    (h : cell? .jis0208 94 (from? 0x21 0x7E b) (from? 0x21 0x7E c) = some ch) (r : List UInt8) :
    island? .pairs switched (b :: c :: r) =
      (island? .pairs false r).map fun (cs, count) => (ch :: cs, count + 2) := by
  rw [island?.eq_def]
  simp [hb, h]

/-- An escape, behind a character. -/
theorem decodeIn?_escape (h : mode? c d = some m') (r : List UInt8) :
    decodeIn? m false (escape :: c :: d :: r) = decodeIn? m' true r := by
  rw [decodeIn?.eq_def]
  simp [h]

/-- An escape that is not behind a character is refused. -/
theorem decodeIn?_escape_switched (m : Mode) (r : List UInt8) :
    decodeIn? m true (escape :: r) = none := by
  rw [decodeIn?.eq_def]
  rcases r with _ | ⟨c, _ | ⟨d, r⟩⟩ <;> rfl

theorem island?_back (h : mode? c d = some .ascii) (r : List UInt8) :
    island? m false (escape :: c :: d :: r) = some ([], 3) := by
  rw [island?.eq_def]
  simp [h]

theorem island?_switch (h : mode? c d = some m') (hm : m' ≠ .ascii) (r : List UInt8) :
    island? m false (escape :: c :: d :: r) =
      (island? m' true r).map fun (cs, count) => (cs, count + 3) := by
  rw [island?.eq_def]
  simp [h]

theorem rule_of_ne (hb : b ≠ escape) (r : List UInt8) : rule b r = more 0 (char? .ascii b) :=
  if_neg hb

theorem rule_idle (h : mode? c d = some .ascii) (r : List UInt8) :
    rule escape (c :: d :: r) = some ([], 2) := by
  unfold rule
  rw [if_pos rfl]
  simp [h]

theorem rule_escape (h : mode? c d = some m) (hm : m ≠ .ascii) (r : List UInt8) :
    rule escape (c :: d :: r) = (island? m true r).map fun (cs, count) => (cs, count + 2) := by
  unfold rule
  rw [if_pos rfl]
  simp [h]

end Steps

/-! ### Islands -/

/-- **Bytes that are an island** from behind its first escape, whatever is behind them. -/
structure IsIsland (m : Mode) (switched : Bool) (inner : List UInt8) (cs : List Char) : Prop where
  island?_eq : ∀ r, island? m switched (inner ++ r) = some (cs, inner.length)
  ends : toAscii <:+ inner

section Islands

variable {m m' : Mode} {switched : Bool} {b c d : UInt8} {ch : Char} {r inner : List UInt8}
  {cs text : List Char} {count : ℕ}

namespace IsIsland

/-- The escape to ASCII ends an island. -/
theorem back (h : mode? c d = some .ascii) : IsIsland m false [escape, c, d] [] := by
  refine ⟨fun r => island?_back h r, ?_⟩
  rw [(eq_of_mode?_ascii h).1, (eq_of_mode?_ascii h).2]
  exact List.suffix_refl _

/-- Another escape switches to another table. -/
theorem switch (h : mode? c d = some m') (hm : m' ≠ .ascii) (hrest : IsIsland m' true inner cs) :
    IsIsland m false (escape :: c :: d :: inner) cs where
  island?_eq r := by
    rw [List.cons_append, List.cons_append, List.cons_append, island?_switch h hm,
      hrest.island?_eq]
    rfl
  ends := hrest.ends.trans (List.suffix_append [escape, c, d] inner)

/-- Two bytes are a character of the table of pairs. -/
theorem pair (hb : b ≠ escape)
    (h : cell? .jis0208 94 (from? 0x21 0x7E b) (from? 0x21 0x7E c) = some ch)
    (hrest : IsIsland .pairs false inner cs) :
    IsIsland .pairs switched (b :: c :: inner) (ch :: cs) where
  island?_eq r := by
    rw [List.cons_append, List.cons_append, island?_pair hb h, hrest.island?_eq]
    rfl
  ends := hrest.ends.trans (List.suffix_append [b, c] inner)

/-- A byte is a character of another table. -/
theorem single (hb : b ≠ escape) (hm : m ≠ .pairs) (h : char? m b = some ch)
    (hrest : IsIsland m false inner cs) : IsIsland m switched (b :: inner) (ch :: cs) where
  island?_eq r := by
    rw [List.cons_append, island?_single hb hm h, hrest.island?_eq]
    rfl
  ends := hrest.ends.trans (List.suffix_cons b inner)

end IsIsland

/-- **What is found is an island,** or it ends with the bytes. -/
theorem exists_of_island? (h : island? m switched r = some (cs, count)) :
    ∃ inner rest, r = inner ++ rest ∧ count = inner.length ∧
      (IsIsland m switched inner cs ∨ rest = []) := by
  -- first the end of the bytes, then what is refused, and then the four steps of an island
  induction m, switched, r using island?.induct generalizing cs count with
  | case1 =>
    obtain ⟨rfl, rfl⟩ := Prod.mk.inj (Option.some.inj h)
    exact ⟨[], [], rfl, rfl, .inr rfl⟩
  | case2 => simp [island?] at h
  | case5 => simp_all [island?]
  | case6 _ _ _ hr => rw [island?.eq_def] at h; simp_all
  | case8 => rw [island?.eq_def] at h; simp_all
  | case9 => simp_all [island?]
  | case11 => rw [island?.eq_def] at h; simp_all
  | case3 m switched c d r hswitched hmode =>
    obtain rfl := Bool.eq_false_iff.2 hswitched
    rw [island?_back hmode] at h
    obtain ⟨rfl, rfl⟩ := Prod.mk.inj (Option.some.inj h)
    exact ⟨[escape, c, d], r, rfl, rfl, .inl (.back hmode)⟩
  | case4 m switched c d r hswitched m' hm hmode ih =>
    obtain rfl := Bool.eq_false_iff.2 hswitched
    rw [island?_switch hmode hm] at h
    obtain ⟨⟨cs', n⟩, hfound, heq⟩ := Option.map_eq_some_iff.1 h
    obtain ⟨rfl, rfl⟩ := Prod.mk.inj heq
    obtain ⟨inner, rest, rfl, rfl, hisland⟩ := ih hfound
    exact ⟨escape :: c :: d :: inner, rest, rfl, rfl, hisland.imp_left (.switch hmode hm)⟩
  | case7 switched b hb c r ch hch ih =>
    rw [island?_pair hb hch] at h
    obtain ⟨⟨cs', n⟩, hfound, heq⟩ := Option.map_eq_some_iff.1 h
    obtain ⟨rfl, rfl⟩ := Prod.mk.inj heq
    obtain ⟨inner, rest, rfl, rfl, hisland⟩ := ih hfound
    exact ⟨b :: c :: inner, rest, rfl, rfl, hisland.imp_left (.pair hb hch)⟩
  | case10 m switched b r hb hm ch hch ih =>
    rw [island?_single hb hm hch] at h
    obtain ⟨⟨cs', n⟩, hfound, heq⟩ := Option.map_eq_some_iff.1 h
    obtain ⟨rfl, rfl⟩ := Prod.mk.inj heq
    obtain ⟨inner, rest, rfl, rfl, hisland⟩ := ih hfound
    exact ⟨b :: inner, rest, rfl, rfl, hisland.imp_left (.single hb hm hch)⟩

/-- **Bytes are read as what is found in them,** and the rest is read in ASCII. -/
theorem decodeIn?_eq_bind (m : Mode) (switched : Bool) (r : List UInt8) :
    decodeIn? m switched r = (island? m switched r).bind fun (cs, count) =>
      (decodeIn? .ascii true (r.drop count)).map (cs ++ ·) := by
  induction m, switched, r using island?.induct with
  | case1 => simp [island?, decodeIn?]
  | case2 => simp [island?, decodeIn?]
  | case5 m switched c d r hswitched hmode => simp [island?, decodeIn?, hmode]
  | case6 m switched r hr => rw [island?.eq_def, decodeIn?.eq_def]; simp_all
  | case8 switched b hb c r hch =>
    rw [island?.eq_def, decodeIn?.eq_def]
    simp [hb, hch]
  | case9 switched b hb => simp [island?, decodeIn?, hb]
  | case11 m switched b r hb hm hch =>
    rw [island?.eq_def, decodeIn?.eq_def]
    simp [hb, hm, hch]
  | case3 m switched c d r hswitched hmode =>
    obtain rfl := Bool.eq_false_iff.2 hswitched
    rw [island?_back hmode, decodeIn?_escape hmode]
    simp
  | case4 m switched c d r hswitched m' hm hmode ih =>
    obtain rfl := Bool.eq_false_iff.2 hswitched
    rw [island?_switch hmode hm, decodeIn?_escape hmode, ih]
    cases island? m' true r <;> simp
  | case7 switched b hb c r ch hch ih =>
    rw [island?_pair hb hch, decodeIn?_pair hb hch, ih]
    cases island? .pairs false r <;> simp [Function.comp_def]
  | case10 m switched b r hb hm ch hch ih =>
    rw [island?_single hb hm hch, decodeIn?_single hb hm hch, ih]
    cases island? m false r <;> simp [Function.comp_def]

/-! ### The rule -/

/-- **What begins with an escape** ends with the escape to ASCII, or with the bytes. -/
theorem exists_of_rule_escape (h : rule escape r = some (cs, count)) :
    ∃ inner rest, r = inner ++ rest ∧ count = inner.length ∧
      (Letter rule escape inner cs ∧ toAscii <:+ escape :: inner ∨ rest = []) := by
  rcases r with _ | ⟨c, _ | ⟨d, r⟩⟩
  · exact absurd h nofun
  · exact absurd h nofun
  cases hmode : mode? c d with
  | none =>
    unfold rule at h
    rw [if_pos rfl] at h
    simp [hmode] at h
  | some m =>
    by_cases hm : m = .ascii
    · subst hm
      rw [rule_idle hmode] at h
      obtain ⟨rfl, rfl⟩ := Prod.mk.inj (Option.some.inj h)
      refine ⟨[c, d], r, rfl, rfl, .inl ⟨fun r => rule_idle hmode r, ?_⟩⟩
      rw [(eq_of_mode?_ascii hmode).1, (eq_of_mode?_ascii hmode).2]
      exact List.suffix_refl _
    · rw [rule_escape hmode hm] at h
      obtain ⟨⟨cs', n⟩, hfound, heq⟩ := Option.map_eq_some_iff.1 h
      obtain ⟨rfl, rfl⟩ := Prod.mk.inj heq
      obtain ⟨inner, rest, rfl, rfl, hisland⟩ := exists_of_island? hfound
      refine ⟨c :: d :: inner, rest, rfl, rfl, hisland.imp_left fun hisland => ⟨fun r => ?_, ?_⟩⟩
      · rw [List.cons_append, List.cons_append, rule_escape hmode hm, hisland.island?_eq]
        rfl
      · exact hisland.ends.trans (List.suffix_append [escape, c, d] inner)

/-- **The rule finds nothing but letters.** -/
theorem sound_rule : Sound rule := by
  intro b r cs count h
  by_cases hb : b = escape
  · subst hb
    obtain ⟨inner, rest, hr, hcount, hletter⟩ := exists_of_rule_escape h
    exact ⟨inner, rest, hr, hcount, hletter.imp_left And.left⟩
  · rw [rule_of_ne hb] at h
    obtain ⟨ch, hch, rfl, rfl⟩ := more_eq_some h
    refine ⟨[], r, rfl, rfl, .inl fun r => ?_⟩
    rw [List.nil_append, rule_of_ne hb, hch]
    rfl

/-- A narrow character between two escapes, and a comma behind them. -/
example : rule escape [0x28, 0x49, 0x31, 0x1B, 0x28, 0x42, 0x2C] = some (['ｱ'], 6) := by decide

/-- **Where ASCII is in force, bytes are read as what the rule finds in them,** and then the rest
is read, which may not begin with an escape if an escape has been read. -/
theorem decodeIn?_cons (b : UInt8) (r : List UInt8) :
    decodeIn? .ascii false (b :: r) = (rule b r).bind fun (cs, count) =>
      (decodeIn? .ascii (b == escape) (r.drop count)).map (cs ++ ·) := by
  by_cases hb : b = escape
  · subst hb
    rcases r with _ | ⟨c, _ | ⟨d, r⟩⟩
    · rfl
    · rfl
    cases hmode : mode? c d with
    | none => simp [rule, decodeIn?, hmode]
    | some m =>
      rw [decodeIn?_escape hmode]
      by_cases hm : m = .ascii
      · subst hm
        rw [rule_idle hmode]
        simp
      · rw [rule_escape hmode hm, decodeIn?_eq_bind]
        cases island? m true r <;> simp
  · rw [rule_of_ne hb]
    cases hch : char? .ascii b with
    | none =>
      rw [decodeIn?.eq_def]
      simp [hb, hch, more]
    | some ch =>
      have hescape : (b == escape) = false := beq_false_of_ne hb
      rw [decodeIn?_single (m := .ascii) hb nofun hch, hescape]
      simp [more]

/-- Behind an escape, bytes are read as they are elsewhere unless they begin with an escape. -/
theorem decodeIn?_of_ne (hb : b ≠ escape) (switched : Bool) :
    decodeIn? m switched (b :: r) = decodeIn? m false (b :: r) := by
  rw [decodeIn?.eq_def, decodeIn?.eq_def]
  simp [hb]

/-- What is read behind an escape is read elsewhere. -/
theorem decodeIn?_of_switched (h : decodeIn? m switched r = some text) :
    decodeIn? m false r = some text := by
  cases switched with
  | false => exact h
  | true =>
    cases r with
    | nil => rwa [decodeIn?] at h ⊢
    | cons b r =>
      by_cases hb : b = escape
      · rw [hb, decodeIn?_escape_switched] at h
        exact absurd h.symm (Option.some_ne_none _)
      · rwa [decodeIn?_of_ne hb] at h

end Islands

/-! ### Texts -/

/-- **Bytes are crowded:** an escape follows the one to ASCII. -/
def Crowded (bytes : List UInt8) : Prop :=
  toAscii ++ [escape] <:+: bytes

instance (bytes : List UInt8) : Decidable (Crowded bytes) :=
  inferInstanceAs (Decidable (_ <:+: bytes))

section Texts

variable {switched : Bool} {b : UInt8} {r bytes : List UInt8} {cs text : List Char} {count : ℕ}

theorem Crowded.of_drop (b : UInt8) (h : Crowded (r.drop count)) : Crowded (b :: r) :=
  h.trans ((List.drop_suffix count r).trans (List.suffix_cons b r)).isInfix

/-- An escape behind what begins with an escape follows the one to ASCII. -/
theorem crowded_of_rule_escape (h : rule escape r = some (cs, count))
    (hhead : (r.drop count).head? = some escape) : Crowded (escape :: r) := by
  obtain ⟨inner, rest, rfl, rfl, ⟨-, front, hfront⟩ | rfl⟩ := exists_of_rule_escape h
  · rw [List.drop_left] at hhead
    obtain ⟨rest, rfl⟩ : ∃ rest', rest = escape :: rest' := by
      cases rest with
      | nil => exact absurd hhead nofun
      | cons x rest => exact ⟨rest, by rw [Option.some.inj hhead]⟩
    refine ⟨front, rest, ?_⟩
    rw [← List.cons_append, ← hfront]
    simp
  · rw [List.drop_left] at hhead
    exact absurd hhead nofun

/-- **What has a text has it under the rule.** -/
theorem decode?_rule (h : decodeIn? .ascii switched bytes = some text) :
    Multibyte.decode? rule bytes = some text := by
  induction bytes using Multibyte.decode?.induct rule generalizing switched text with
  | case1 =>
    rw [decodeIn?] at h
    rw [Multibyte.decode?, h]
  | case2 b r cs count hrule ih =>
    have hfirst := decodeIn?_of_switched h
    rw [decodeIn?_cons, hrule, Option.bind_some] at hfirst
    obtain ⟨text, hrest, rfl⟩ := Option.map_eq_some_iff.1 hfirst
    rw [Multibyte.decode?_cons hrule, ih hrest]
    rfl
  | case3 b r hrule =>
    have hfirst := decodeIn?_of_switched h
    rw [decodeIn?_cons, hrule] at hfirst
    exact absurd hfirst.symm (Option.some_ne_none _)

/-- **What has a text under the rule has it,** or it has none, because an escape is not behind a
character. -/
theorem decodeIn?_of_rule (h : Multibyte.decode? rule bytes = some text) (switched : Bool) :
    decodeIn? .ascii switched bytes = some text ∨
      switched = true ∧ bytes.head? = some escape ∨ Crowded bytes := by
  induction bytes using Multibyte.decode?.induct rule generalizing switched text with
  | case1 =>
    rw [Multibyte.decode?] at h
    exact .inl (by rw [decodeIn?, h])
  | case2 b r cs count hrule ih =>
    rw [Multibyte.decode?_cons hrule] at h
    obtain ⟨text, hrest, rfl⟩ := Option.map_eq_some_iff.1 h
    by_cases hfirst : switched = true ∧ b = escape
    · exact .inr (.inl ⟨hfirst.1, by rw [hfirst.2]; rfl⟩)
    have hcons : decodeIn? .ascii switched (b :: r) = decodeIn? .ascii false (b :: r) := by
      by_cases hb : b = escape
      · rw [Bool.eq_false_iff.2 fun hswitched => hfirst ⟨hswitched, hb⟩]
      · exact decodeIn?_of_ne hb switched
    rw [hcons, decodeIn?_cons, hrule, Option.bind_some]
    rcases ih hrest (b == escape) with hsome | ⟨hb, hhead⟩ | hcrowded
    · exact .inl (by simp only [hsome, Option.map_some])
    · obtain rfl := beq_iff_eq.1 hb
      exact .inr (.inr (crowded_of_rule_escape hrule hhead))
    · exact .inr (.inr (hcrowded.of_drop b))
  | case3 b r hrule =>
    rw [Multibyte.decode?, hrule] at h
    exact absurd h.symm (Option.some_ne_none _)

/-- **What has a text under the rule has it,** unless it is crowded. -/
theorem decode?_of_rule (h : Multibyte.decode? rule bytes = some text)
    (hcrowded : ¬Crowded bytes) : decode? bytes = some text := by
  rcases decodeIn?_of_rule h false with hsome | ⟨hswitched, -⟩ | hbad
  · exact hsome
  · exact absurd hswitched nofun
  · exact absurd hbad hcrowded

end Texts

end OneTable.Escaped
