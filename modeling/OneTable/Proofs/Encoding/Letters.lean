import Mathlib.Tactic.Common
import OneTable.Encoding.Basic
import OneTable.Proofs.Csv.Alike
import OneTable.Proofs.Encoding.BeyondAscii

/-!
# Letters of an encoding

A text is taken from its bytes letter by letter: a first byte tells how many of the bytes behind it
belong to it, and with them it stands for some characters. So bytes with a text are a row of
letters (`OneTable.Multibyte.Spells`), but for the last of them, which may be one only because
nothing follows it. It does not matter where such a row is taken apart, as long as it is not inside
of a letter: two rows of letters are one.

A file is taken apart by bytes that mean something. Such a byte may have the misfortune to be part
of a letter, and then the letter may be torn. The letters of a file are intact
(`OneTable.Multibyte.Intact`) if each of them either stands for itself or has all of its bytes taken
into a cell, and if the same is true of its characters in UTF-8. Then the file and its text in UTF-8
are taken apart alike.

Under most rules a byte of ASCII is a letter of its own and stands for itself, and any other letter
begins beyond ASCII and stands for characters beyond ASCII (`OneTable.Multibyte.Regular`). What may
stand in such a letter behind its first byte are digits, letters of ASCII and bytes beyond ASCII,
but never a quote or the end of a line. So a comma, a tab or a semicolon leaves the letters intact.

* `OneTable.Multibyte.Letter` – a letter, with its characters;
* `OneTable.Multibyte.Sound` – a rule that finds nothing but letters;
* `OneTable.Multibyte.Intact` – letters that are not torn;
* `OneTable.Multibyte.Intact.alike` – **a file and its text are taken apart alike**;
* `OneTable.Multibyte.Regular.intact` – bytes that tear no letter of a regular rule.
-/

namespace OneTable.Multibyte

open Csv

/-! ### Letters -/

/-- **A letter of a rule:** a first byte, the bytes behind it that belong to it, and the characters
they stand for together, whatever is behind them. -/
def Letter (rule : Rule) (b : UInt8) (inner : List UInt8) (cs : List Char) : Prop :=
  ∀ r, rule b (inner ++ r) = some (cs, inner.length)

/-- **Bytes begin with a letter** that has so many of them behind its first byte. All the bytes
there are need not be a letter if there are more. -/
def Begins (rule : Rule) (b : UInt8) (r : List UInt8) (cs : List Char) (count : ℕ) : Prop :=
  ∃ inner rest, r = inner ++ rest ∧ count = inner.length ∧ (Letter rule b inner cs ∨ rest = [])

/-- **A rule that finds nothing but letters.** -/
def Sound (rule : Rule) : Prop :=
  ∀ (b : UInt8) (r : List UInt8) (cs : List Char) (count : ℕ), rule b r = some (cs, count) →
    Begins rule b r cs count

/-- **A row of letters,** with the text it stands for. -/
inductive Spells (rule : Rule) : List UInt8 → List Char → Prop
  | nil : Spells rule [] []
  | letter {b : UInt8} {inner rest : List UInt8} {cs text : List Char}
      (h : Letter rule b inner cs) (hrest : Spells rule rest text) :
      Spells rule (b :: (inner ++ rest)) (cs ++ text)

section Letters

variable {rule : Rule} {b : UInt8} {inner r bytes bytes' : List UInt8} {cs text text' : List Char}
  {count : ℕ}

/-- The text of bytes is that of what they begin with, and the text of the rest. -/
theorem decode?_cons (h : rule b r = some (cs, count)) :
    decode? rule (b :: r) = (decode? rule (r.drop count)).map (cs ++ ·) := by
  rw [decode?, h]

theorem Letter.spells (h : Letter rule b inner cs) : Spells rule (b :: inner) cs := by
  have hspells := Spells.letter h .nil
  rwa [List.append_nil, List.append_nil] at hspells

/-- **Two rows of letters are one.** -/
theorem Spells.append (h : Spells rule bytes text) (h' : Spells rule bytes' text') :
    Spells rule (bytes ++ bytes') (text ++ text') := by
  induction h with
  | nil => exact h'
  | letter hletter _ ih =>
    rw [List.cons_append, List.append_assoc, List.append_assoc]
    exact .letter hletter ih

/-- **A row of letters has its text,** and what is behind it has its own. -/
theorem Spells.decode?_append (h : Spells rule bytes text) (bytes' : List UInt8) :
    decode? rule (bytes ++ bytes') = (decode? rule bytes').map (text ++ ·) := by
  induction h with
  | nil => simp
  | letter hletter _ ih =>
    rw [List.cons_append, List.append_assoc, decode?_cons (hletter _), List.drop_left, ih,
      Option.map_map]
    simp only [Function.comp_def, List.append_assoc]

theorem Spells.decode?_eq (h : Spells rule bytes text) : decode? rule bytes = some text := by
  have hdecode := h.decode?_append []
  rw [decode?] at hdecode
  simpa using hdecode

end Letters

/-! ### Files and their texts -/

/-- A row of letters, and its text in UTF-8. -/
def Renders (rule : Rule) (cell cell' : Cell) : Prop :=
  ∃ text, Spells rule cell text ∧ cell' = Utf8.encode text

/-- Bytes with a text, and their text in UTF-8. -/
def Reads (rule : Rule) (cell cell' : Cell) : Prop :=
  ∃ text, decode? rule cell = some text ∧ cell' = Utf8.encode text

/-- **Letters that are intact** where bytes are taken apart from a place on: one stands for itself,
or all its bytes are taken into a cell, and so are those of its characters in UTF-8. -/
inductive Intact (rule : Rule) (delimiter : UInt8) : Place → List UInt8 → Prop
  | nil {p : Place} : Intact rule delimiter p []
  | self {p : Place} {b : UInt8} {rest : List UInt8} (hascii : b < 0x80)
      (h : Letter rule b [] [Char.ofNat b.toNat])
      (hrest : Intact rule delimiter (p.after delimiter b) rest) :
      Intact rule delimiter p (b :: rest)
  | taken {p : Place} {b : UInt8} {inner rest : List UInt8} {cs : List Char}
      (h : rule b (inner ++ rest) = some (cs, inner.length))
      (hbytes : p.takesAll delimiter (b :: inner) = true)
      (hchars : p.takesAll delimiter (Utf8.encode cs) = true)
      (hrest : Intact rule delimiter p.inside rest) :
      Intact rule delimiter p (b :: (inner ++ rest))

section Files

variable {rule : Rule} {delimiter : UInt8} {p : Place} {bytes : List UInt8} {text : List Char}

theorem Renders.nil (rule : Rule) : Renders rule [] [] := ⟨[], .nil, rfl⟩

theorem Renders.reads {cell cell' : Cell} (h : Renders rule cell cell') :
    Reads rule cell cell' := by
  obtain ⟨text, hspells, rfl⟩ := h
  exact ⟨text, hspells.decode?_eq, rfl⟩

/-- Letters that are put behind a cell are put behind its text. -/
theorem Spells.keeps (h : Spells rule bytes text) :
    Keeps (Renders rule) bytes (Utf8.encode text) := by
  rintro x _ ⟨text', hx, rfl⟩
  exact ⟨text' ++ text, hx.append h, (Utf8.encode_append text' text).symm⟩

/-- The last letter that is put behind a cell is put behind its text. -/
theorem Renders.reads_append {cell cell' : Cell} (h : Renders rule cell cell')
    (hbytes : decode? rule bytes = some text) :
    Reads rule (cell ++ bytes) (cell' ++ Utf8.encode text) := by
  obtain ⟨text', hspells, rfl⟩ := h
  refine ⟨text' ++ text, ?_, (Utf8.encode_append text' text).symm⟩
  rw [hspells.decode?_append, hbytes]
  rfl

/-- **A file and its text in UTF-8 are taken apart alike,** if its letters are intact. -/
theorem Intact.alike (hsound : Sound rule) (h : Intact rule delimiter p bytes)
    (htext : decode? rule bytes = some text) :
    Alike delimiter (Renders rule) (Reads rule) p bytes (Utf8.encode text) := by
  induction h generalizing text with
  | nil =>
    rw [decode?] at htext
    obtain rfl := Option.some.inj htext
    exact .nil
  | @self p b rest hascii hletter _ ih =>
    have hrule : rule b rest = some ([Char.ofNat b.toNat], 0) := hletter rest
    rw [decode?_cons hrule, List.drop_zero] at htext
    obtain ⟨text, hrest, rfl⟩ := Option.map_eq_some_iff.1 htext
    have hbyte : Utf8.encode [Char.ofNat b.toNat] = [b] := by
      rw [Utf8.encode_cons, Utf8.utf8EncodeChar_one hascii]
      rfl
    have hkeeps := hletter.spells.keeps
    rw [hbyte] at hkeeps
    rw [Utf8.encode_append, hbyte]
    exact .byte b hkeeps (ih hrest)
  | @taken p b inner rest cs hrule hbytes hchars _ ih =>
    have hfound := hsound b (inner ++ rest) cs inner.length hrule
    rw [decode?_cons hrule, List.drop_left] at htext
    obtain ⟨text, hrest, rfl⟩ := Option.map_eq_some_iff.1 htext
    rw [Utf8.encode_append, ← List.cons_append]
    obtain ⟨inner', rest', heq, hlength, hletter⟩ := hfound
    obtain ⟨rfl, rfl⟩ := List.append_inj heq hlength
    rcases hletter with hletter | rfl
    · exact .run hbytes hchars hletter.spells.keeps (ih hrest)
    · -- nothing follows the last letter
      rw [decode?] at hrest
      obtain rfl := Option.some.inj hrest
      have hlast : decode? rule (b :: inner) = some cs := by
        rw [List.append_nil] at hrule
        rw [decode?_cons hrule, List.drop_length, decode?]
        simp
      rw [List.append_nil, Utf8.encode_nil, List.append_nil]
      exact .last hbytes hchars fun x x' hx => hx.reads_append hlast

end Files

/-! ### Regular rules -/

/-- A byte that may stand behind the first byte of a letter. -/
def Trails (b : UInt8) : Prop :=
  0x30 ≤ b ∧ b ≤ 0x39 ∨ 0x40 ≤ b

instance (b : UInt8) : Decidable (Trails b) :=
  inferInstanceAs (Decidable (0x30 ≤ b ∧ b ≤ 0x39 ∨ 0x40 ≤ b))

/-- A byte of ASCII that is a letter of its own and stands for itself. -/
def StandsForItself (b : UInt8) (inner : List UInt8) (cs : List Char) : Prop :=
  b < 0x80 ∧ inner = [] ∧ cs = [Char.ofNat b.toNat]

/-- What begins beyond ASCII and stands for characters beyond ASCII. -/
structure IsBeyond (b : UInt8) (inner : List UInt8) (cs : List Char) : Prop where
  first : 0x80 ≤ b
  trails : ∀ x ∈ inner, Trails x
  chars : ∀ c ∈ cs, beyondAscii c = true
  ne_nil : cs ≠ []

/-- Bytes begin with a letter that either stands for itself or has nothing of ASCII in its first
byte and in its characters. -/
def BeginsRegularly (rule : Rule) (b : UInt8) (r : List UInt8) (cs : List Char) (count : ℕ) :
    Prop :=
  ∃ inner rest, r = inner ++ rest ∧ count = inner.length ∧ Letter rule b inner cs ∧
    (StandsForItself b inner cs ∨ IsBeyond b inner cs)

/-- **A regular rule** finds nothing but letters of these two kinds. -/
def Regular (rule : Rule) : Prop :=
  ∀ (b : UInt8) (r : List UInt8) (cs : List Char) (count : ℕ), rule b r = some (cs, count) →
    BeginsRegularly rule b r cs count

section Regular

variable {rule : Rule} {delimiter b : UInt8} {r bytes : List UInt8} {cs text : List Char}
  {ch : Char} {count n : ℕ}

theorem Regular.sound (h : Regular rule) : Sound rule := by
  intro b r cs count hb
  obtain ⟨inner, rest, hr, hcount, hletter, -⟩ := h b r cs count hb
  exact ⟨inner, rest, hr, hcount, .inl hletter⟩

/-- The bytes of characters beyond ASCII are beyond ASCII. -/
theorem le_of_mem_encode (hcs : ∀ c ∈ cs, beyondAscii c = true) :
    ∀ x ∈ Utf8.encode cs, 0x80 ≤ x := by
  intro x hx
  obtain ⟨c, hc, hmem⟩ := List.mem_flatMap.1 hx
  exact Utf8.le_of_mem_utf8EncodeChar (beyondAscii_iff.1 (hcs c hc)) x hmem

/-- Characters are not without bytes. -/
theorem encode_ne_nil (h : cs ≠ []) : Utf8.encode cs ≠ [] := by
  cases cs with
  | nil => exact absurd rfl h
  | cons c cs =>
    rw [Utf8.encode_cons]
    exact List.append_ne_nil_of_left_ne_nil (Utf8.utf8EncodeChar_ne_nil c) _

/-- **No letter of a regular rule is torn** if all that means something is in ASCII and never stands
behind the first byte of a letter. -/
theorem Regular.intact (hrule : Regular rule)
    (hascii : ∀ x, isSpecial delimiter x = true → x < 0x80)
    (hinner : ∀ b r cs count, rule b r = some (cs, count) →
      ∀ x ∈ r.take count, isSpecial delimiter x = false)
    (htext : decode? rule bytes = some text) (p : Place) : Intact rule delimiter p bytes := by
  have hbeyond : ∀ x : UInt8, 0x80 ≤ x → isSpecial delimiter x = false := fun x hx =>
    Bool.eq_false_iff.2 fun hspecial => UInt8.not_lt.2 hx (hascii x hspecial)
  induction bytes using decode?.induct rule generalizing p text with
  | case1 => exact .nil
  | case2 b r cs count h ih =>
    have hclean := hinner b r cs count h
    rw [decode?_cons h] at htext
    obtain ⟨text, hrest, -⟩ := Option.map_eq_some_iff.1 htext
    obtain ⟨inner, rest, rfl, rfl, hletter, hkind⟩ := hrule b r cs count h
    rw [List.take_left] at hclean
    rw [List.drop_left] at hrest ih
    rcases hkind with ⟨hb, rfl, rfl⟩ | hbey
    · exact .self hb hletter (ih hrest _)
    · refine .taken h (p.takesAll_of_not_isSpecial (List.cons_ne_nil _ _) ?_)
        (p.takesAll_of_not_isSpecial (encode_ne_nil hbey.ne_nil) ?_) (ih hrest _)
      · exact List.forall_mem_cons.2 ⟨hbeyond b hbey.first, hclean⟩
      · exact fun x hx => hbeyond x (le_of_mem_encode hbey.chars x hx)
  | case3 b r h =>
    rw [decode?, h] at htext
    exact absurd htext.symm (Option.some_ne_none _)

/-- Bytes of ASCII that cannot stand behind the first byte of any letter tear none. -/
theorem Regular.intact_of_not_trails (hrule : Regular rule)
    (hspecial : ∀ x, isSpecial delimiter x = true → x < 0x80 ∧ ¬Trails x)
    (htext : decode? rule bytes = some text) (p : Place) : Intact rule delimiter p bytes := by
  refine hrule.intact (fun x hx => (hspecial x hx).1) (fun b r cs count h x hmem => ?_) htext p
  obtain ⟨inner, rest, rfl, rfl, -, hkind⟩ := hrule b r cs count h
  rw [List.take_left] at hmem
  rcases hkind with ⟨-, rfl, -⟩ | hbeyond
  · exact absurd hmem List.not_mem_nil
  · exact Bool.eq_false_iff.2 fun hx => (hspecial x hx).2 (hbeyond.trails x hmem)

/-! ### Where a rule has letters -/

theorem more_eq_some {found : Option Char} (h : more n found = some (cs, count)) :
    ∃ ch, found = some ch ∧ cs = [ch] ∧ count = n := by
  obtain ⟨ch, hch, heq⟩ := Option.map_eq_some_iff.1 h
  obtain ⟨rfl, rfl⟩ := Prod.mk.inj heq
  exact ⟨ch, hch, rfl, rfl⟩

/-- **A rule that finds one character** in a first byte and some bytes behind it has a letter there;
it is beyond ASCII if its bytes and its character are. -/
theorem beginsRegularly_of_more {inner rest : List UInt8} {found : Option Char} (hb : 0x80 ≤ b)
    (hrule : ∀ r, rule b (inner ++ r) = more inner.length found)
    (hfound : ∀ ch, found = some ch → (∀ x ∈ inner, Trails x) ∧ beyondAscii ch = true)
    (h : rule b (inner ++ rest) = some (cs, count)) :
    BeginsRegularly rule b (inner ++ rest) cs count := by
  rw [hrule] at h
  obtain ⟨ch, rfl, rfl, rfl⟩ := more_eq_some h
  obtain ⟨htrails, hch⟩ := hfound ch rfl
  exact ⟨inner, rest, rfl, rfl, hrule,
    .inr ⟨hb, htrails, by simpa using hch, List.cons_ne_nil _ _⟩⟩

/-- **A rule that finds a character in one byte** has a letter there. -/
theorem beginsRegularly_of_single (hrule : ∀ r, rule b r = single ch)
    (hch : b < 0x80 ∧ ch = Char.ofNat b.toNat ∨ 0x80 ≤ b ∧ beyondAscii ch = true)
    (h : rule b r = some (cs, count)) : BeginsRegularly rule b r cs count := by
  rw [hrule] at h
  obtain ⟨rfl, rfl⟩ := Prod.mk.inj (Option.some.inj h)
  refine ⟨[], r, rfl, rfl, hrule, ?_⟩
  rcases hch with ⟨hb, rfl⟩ | ⟨hb, hch⟩
  · exact .inl ⟨hb, rfl, rfl⟩
  · exact .inr ⟨hb, fun _ hx => absurd hx List.not_mem_nil, by simpa using hch,
      List.cons_ne_nil _ _⟩

/-- A rule under which the bytes of ASCII stand for themselves is regular if it is so beyond them.
-/
theorem regular_of_ascii (hascii : ∀ b r, b < 0x80 → rule b r = single (Char.ofNat b.toNat))
    (hbeyond : ∀ b r cs count, ¬b < 0x80 → rule b r = some (cs, count) →
      BeginsRegularly rule b r cs count) : Regular rule := by
  intro b r cs count h
  by_cases hb : b < 0x80
  · exact beginsRegularly_of_single (fun r => hascii b r hb) (.inl ⟨hb, rfl⟩) h
  · exact hbeyond b r cs count hb h

end Regular

end OneTable.Multibyte
