import Mathlib.Tactic.Common
import OneTable.Proofs.Encoding.Letters

/-!
# Rules that leave ASCII alone

Of a rule one has to see where it finds characters: in the first byte alone, or in that byte and in
the next one to three. Behind the first byte there are columns of tables, which begin behind the
digits, and in characters of four bytes there are digits too. The characters are those of the
tables, or they are computed from the bytes.

Code pages and the private range read every byte for itself.

* `OneTable.Multibyte.regular_shiftJis`, `OneTable.Multibyte.regular_eucJp`,
  `OneTable.Multibyte.regular_gb18030`, `OneTable.Multibyte.regular_big5`,
  `OneTable.Multibyte.regular_eucKr` – the rules of several bytes;
* `OneTable.Multibyte.regular_singly` – rules of single bytes.
-/

namespace OneTable.Multibyte

/-! ### The parts of rules -/

section Parts

variable {first last first' last' b c : UInt8} {cs : List Char} {ch : Char} {width n : ℕ}
  {t : CharTable} {row column : Option ℕ}

theorem from?_eq_some (h : from? first last b = some n) :
    first ≤ b ∧ b ≤ last ∧ n = b.toNat - first.toNat := by
  rw [from?] at h
  split at h
  · next hin =>
    have hbounds : first ≤ b ∧ b ≤ last := by simpa [within] using hin
    exact ⟨hbounds.1, hbounds.2, (Option.some.inj h).symm⟩
  · exact absurd h.symm (Option.some_ne_none n)

/-- A column begins at the first byte of its first range. -/
theorem le_of_column? (h : column? first last first' last' b = some n) (hle : first ≤ first') :
    first ≤ b := by
  rw [column?] at h
  split at h
  · next hfrom => exact (from?_eq_some hfrom).1
  · obtain ⟨m, hm, -⟩ := Option.map_eq_some_iff.1 h
    exact UInt8.le_trans hle (from?_eq_some hm).1

/-- A character of a table has a row and a column there. -/
theorem exists_of_cell? (h : cell? t width row column = some ch) :
    ∃ i j, row = some i ∧ column = some j ∧ t.char? (i * width + j) = some ch := by
  unfold cell? at h
  split at h
  · next i j => exact ⟨i, j, rfl, rfl, h⟩
  · exact absurd h.symm (Option.some_ne_none ch)

/-- A byte that is the column of a character is beyond the digits. -/
theorem trails_of_le (hc : 0x40 ≤ c) : ∀ x ∈ [c], Trails x := by
  intro x hx
  rw [List.mem_singleton.1 hx]
  exact .inr hc

/-- A character of a table that is beyond ASCII, with its column in one byte. -/
theorem trails_of_cell? (ht : t.BeyondAscii) (h : cell? t width row column = some ch)
    (hcolumn : ∀ j, column = some j → 0x40 ≤ c) :
    (∀ x ∈ [c], Trails x) ∧ beyondAscii ch = true := by
  obtain ⟨i, j, -, hj, hch⟩ := exists_of_cell? h
  exact ⟨trails_of_le (hcolumn j hj), ht _ ch hch⟩

/-- The narrow characters of the Japanese syllabary have a byte each. -/
theorem trails_of_narrowKana (h : (from? 0xA1 0xDF b).map narrowKana = some ch) :
    (∀ x ∈ [b], Trails x) ∧ beyondAscii ch = true := by
  obtain ⟨n, hn, rfl⟩ := Option.map_eq_some_iff.1 h
  obtain ⟨hfirst, hlast, hplace⟩ := from?_eq_some hn
  have hlt : n < 63 := by
    have hle := UInt8.le_iff_toNat_le.1 hlast
    simp at hle hplace
    omega
  exact ⟨trails_of_le (UInt8.le_trans (by decide) hfirst),
    beyondAscii_ofNat (by omega) (.inr (by omega))⟩

theorem beyondAscii_of_japanese? (h : japanese? n = some ch) : beyondAscii ch = true := by
  rw [japanese?] at h
  split at h
  · next hn =>
    obtain rfl := Option.some.inj h
    simp only [userNumbers] at hn ⊢
    exact beyondAscii_ofNat (by omega) (.inr (by omega))
  · exact CharTable.beyondAscii_jis0208 n ch h

/-- The characters of four bytes have two digits among them. -/
theorem trails_of_fourBytes? {d e : UInt8} (h : fourBytes? b c d e = some ch) :
    (∀ x ∈ [c, d, e], Trails x) ∧ beyondAscii ch = true := by
  unfold fourBytes? at h
  split at h
  · next hc hd he =>
    obtain ⟨hfirst, hlast, -⟩ := from?_eq_some hc
    obtain ⟨hfirst', -, -⟩ := from?_eq_some hd
    obtain ⟨hfirst'', hlast'', -⟩ := from?_eq_some he
    refine ⟨?_, Gb18030.beyondAscii_of_wide? h⟩
    simp only [List.forall_mem_cons, List.not_mem_nil, false_imp_iff, implies_true, and_true]
    exact ⟨.inl ⟨hfirst, hlast⟩, .inr (UInt8.le_trans (by decide) hfirst'),
      .inl ⟨hfirst'', hlast''⟩⟩
  · exact absurd h.symm (Option.some_ne_none ch)

theorem beyondAscii_of_accented? (h : accented? n = some cs) :
    cs ≠ [] ∧ ∀ ch ∈ cs, beyondAscii ch = true := by
  rw [← List.all_eq_true]
  unfold accented? at h
  split at h
  · obtain rfl := Option.some.inj h
    exact ⟨List.cons_ne_nil _ _, rfl⟩
  · obtain rfl := Option.some.inj h
    exact ⟨List.cons_ne_nil _ _, rfl⟩
  · obtain rfl := Option.some.inj h
    exact ⟨List.cons_ne_nil _ _, rfl⟩
  · obtain rfl := Option.some.inj h
    exact ⟨List.cons_ne_nil _ _, rfl⟩
  · exact absurd h.symm (Option.some_ne_none cs)

end Parts

/-! ### The rules -/

theorem regular_shiftJis : Regular shiftJis := by
  intro b r cs count h
  by_cases hlow : b ≤ 0x80
  · have hrule : ∀ r, shiftJis b r = single (Char.ofNat b.toNat) := fun r => by
      simp [shiftJis, hlow]
    refine beginsRegularly_of_single hrule ?_ h
    by_cases hb : b < 0x80
    · exact .inl ⟨hb, rfl⟩
    · -- the first byte beyond ASCII is a control character
      obtain rfl : b = 0x80 := UInt8.le_antisymm hlow (UInt8.not_lt.1 hb)
      exact .inr ⟨UInt8.not_lt.1 hb, by decide⟩
  have hb : 0x80 ≤ b := (UInt8.le_total b 0x80).resolve_left hlow
  cases hkana : from? 0xA1 0xDF b with
  | some n =>
    have hrule : ∀ r, shiftJis b r = single (narrowKana n) := fun r => by
      simp [shiftJis, hlow, hkana]
    have hch := (trails_of_narrowKana (b := b) (by rw [hkana]; rfl)).2
    exact beginsRegularly_of_single hrule (.inr ⟨hb, hch⟩) h
  | none =>
    cases hrow : column? 0x81 0x9F 0xE0 0xFC b with
    | none => simp [shiftJis, hlow, hkana, hrow] at h
    | some row =>
      cases r with
      | nil => simp [shiftJis, hlow, hkana, hrow] at h
      | cons c r =>
        have hrule : ∀ r, shiftJis b ([c] ++ r) =
            more 1 ((column? 0x40 0x7E 0x80 0xFC c).bind fun column =>
              japanese? (row * 188 + column)) := fun r => by
          simp [shiftJis, hlow, hkana, hrow]
        refine beginsRegularly_of_more hb hrule (fun ch hch => ?_) h
        obtain ⟨column, hcolumn, hch⟩ := Option.bind_eq_some_iff.1 hch
        exact ⟨trails_of_le (le_of_column? hcolumn (by decide)), beyondAscii_of_japanese? hch⟩

theorem regular_eucJp : Regular eucJp := by
  refine regular_of_ascii (fun b r hb => if_pos hb) ?_
  intro b r cs count hlow h
  have hb : 0x80 ≤ b := UInt8.not_lt.1 hlow
  by_cases hkana : b = 0x8E
  · cases r with
    | nil => simp [eucJp, hkana] at h
    | cons c r =>
      have hrule : ∀ r, eucJp b ([c] ++ r) = more 1 ((from? 0xA1 0xDF c).map narrowKana) :=
        fun r => by simp [eucJp, hkana]
      exact beginsRegularly_of_more hb hrule (fun ch hch => trails_of_narrowKana hch) h
  by_cases hthree : b = 0x8F
  · rcases r with _ | ⟨c, _ | ⟨d, r⟩⟩
    · simp [eucJp, hthree] at h
    · simp [eucJp, hthree] at h
    · have hrule : ∀ r, eucJp b ([c, d] ++ r) =
          more 2 (cell? .jis0212 94 (from? 0xA1 0xFE c) (from? 0xA1 0xFE d)) := fun r => by
        simp [eucJp, hthree]
      refine beginsRegularly_of_more hb hrule (fun ch hch => ?_) h
      obtain ⟨i, j, hi, hj, hch⟩ := exists_of_cell? hch
      refine ⟨?_, CharTable.beyondAscii_jis0212 _ ch hch⟩
      simp only [List.forall_mem_cons, List.not_mem_nil, false_imp_iff, implies_true, and_true]
      exact ⟨.inr (UInt8.le_trans (by decide) (from?_eq_some hi).1),
        .inr (UInt8.le_trans (by decide) (from?_eq_some hj).1)⟩
  · cases r with
    | nil => simp [eucJp, hlow, hkana, hthree] at h
    | cons c r =>
      have hrule : ∀ r, eucJp b ([c] ++ r) =
          more 1 (cell? .jis0208 94 (from? 0xA1 0xFE b) (from? 0xA1 0xFE c)) := fun r => by
        simp [eucJp, hlow, hkana, hthree]
      refine beginsRegularly_of_more hb hrule (fun ch hch => ?_) h
      exact trails_of_cell? CharTable.beyondAscii_jis0208 hch fun j hj =>
        UInt8.le_trans (by decide) (from?_eq_some hj).1

theorem regular_gb18030 : Regular gb18030 := by
  refine regular_of_ascii (fun b r hb => if_pos hb) ?_
  intro b r cs count hlow h
  have hb : 0x80 ≤ b := UInt8.not_lt.1 hlow
  by_cases heuro : b = 0x80
  · have hrule : ∀ r, gb18030 b r = single '€' := fun r => by simp [gb18030, heuro]
    exact beginsRegularly_of_single hrule (.inr ⟨hb, by decide⟩) h
  cases r with
  | nil => simp [gb18030, hlow, heuro] at h
  | cons c r =>
    by_cases hdigit : within 0x30 0x39 c = true
    · rcases r with _ | ⟨d, _ | ⟨e, r⟩⟩
      · simp [gb18030, hlow, heuro, hdigit] at h
      · simp [gb18030, hlow, heuro, hdigit] at h
      · have hrule : ∀ r, gb18030 b ([c, d, e] ++ r) = more 3 (fourBytes? b c d e) := fun r => by
          simp [gb18030, hlow, heuro, hdigit]
        exact beginsRegularly_of_more hb hrule (fun ch hch => trails_of_fourBytes? hch) h
    · have hrule : ∀ r, gb18030 b ([c] ++ r) = more 1 (cell? .gb18030 190 (from? 0x81 0xFE b)
          (column? 0x40 0x7E 0x80 0xFE c)) := fun r => by
        simp [gb18030, hlow, heuro, hdigit]
      refine beginsRegularly_of_more hb hrule (fun ch hch => ?_) h
      exact trails_of_cell? CharTable.beyondAscii_gb18030 hch fun j hj =>
        le_of_column? hj (by decide)

theorem regular_big5 : Regular big5 := by
  refine regular_of_ascii (fun b r hb => if_pos hb) ?_
  intro b r cs count hlow h
  have hb : 0x80 ≤ b := UInt8.not_lt.1 hlow
  cases r with
  | nil => simp [big5, hlow] at h
  | cons c r =>
    cases hrow : from? 0x81 0xFE b with
    | none => simp [big5, hlow, hrow] at h
    | some row =>
      cases hcolumn : column? 0x40 0x7E 0xA1 0xFE c with
      | none => simp [big5, hlow, hrow, hcolumn] at h
      | some column =>
        have htrails := trails_of_le (le_of_column? hcolumn (by decide))
        cases haccented : accented? (row * 157 + column) with
        | some cs' =>
          have hrule : ∀ r, big5 b ([c] ++ r) = some (cs', 1) := fun r => by
            simp [big5, hlow, hrow, hcolumn, haccented]
          obtain ⟨rfl, rfl⟩ := Prod.mk.inj (Option.some.inj ((hrule r).symm.trans h))
          obtain ⟨hne, hbeyond⟩ := beyondAscii_of_accented? haccented
          exact ⟨[c], r, rfl, rfl, hrule, .inr ⟨hb, htrails, hbeyond, hne⟩⟩
        | none =>
          have hrule : ∀ r, big5 b ([c] ++ r) =
              more 1 (CharTable.big5.char? (row * 157 + column)) := fun r => by
            simp [big5, hlow, hrow, hcolumn, haccented]
          exact beginsRegularly_of_more hb hrule
            (fun ch hch => ⟨htrails, CharTable.beyondAscii_big5 _ ch hch⟩) h

theorem regular_eucKr : Regular eucKr := by
  refine regular_of_ascii (fun b r hb => if_pos hb) ?_
  intro b r cs count hlow h
  have hb : 0x80 ≤ b := UInt8.not_lt.1 hlow
  cases r with
  | nil => simp [eucKr, hlow] at h
  | cons c r =>
    have hrule : ∀ r, eucKr b ([c] ++ r) =
        more 1 (cell? .ksX1001 190 (from? 0x81 0xFE b) (from? 0x41 0xFE c)) := fun r => by
      simp [eucKr, hlow]
    refine beginsRegularly_of_more hb hrule (fun ch hch => ?_) h
    exact trails_of_cell? CharTable.beyondAscii_ksX1001 hch fun j hj =>
      UInt8.le_trans (by decide) (from?_eq_some hj).1

/-! ### Rules of single bytes -/

/-- The rule under which every byte that can be read is a character. -/
def singly (f : UInt8 → Option Char) : Rule := fun b _ => more 0 (f b)

/-- Bytes that are read one by one are a text if each of them is a character. -/
theorem decode?_singly (f : UInt8 → Option Char) (bytes : List UInt8) :
    decode? (singly f) bytes = bytes.mapM f := by
  induction bytes with
  | nil => rw [decode?]; rfl
  | cons b bytes ih =>
    rw [decode?, List.mapM_cons, singly]
    cases f b with
    | none => rfl
    | some c =>
      simp only [more, Option.map_some, List.drop_zero, ih]
      cases bytes.mapM f <;> rfl

theorem regular_singly {f : UInt8 → Option Char}
    (hf : ∀ b c, f b = some c →
      b < 0x80 ∧ c = Char.ofNat b.toNat ∨ 0x80 ≤ b ∧ beyondAscii c = true) :
    Regular (singly f) := by
  intro b r cs count h
  obtain ⟨c, hc, -, -⟩ := more_eq_some h
  have hrule : ∀ r, singly f b r = single c := fun r => by rw [singly, hc]; rfl
  exact beginsRegularly_of_single hrule (hf b c hc) h

/-- Where every letter has one byte, bytes of ASCII tear none. -/
theorem intact_singly {f : UInt8 → Option Char} {delimiter : UInt8} {bytes : List UInt8}
    {text : List Char} (hregular : Regular (singly f))
    (hascii : ∀ x, Csv.isSpecial delimiter x = true → x < 0x80)
    (htext : decode? (singly f) bytes = some text) (p : Csv.Place) :
    Intact (singly f) delimiter p bytes := by
  refine hregular.intact hascii (fun b r cs count h x hmem => ?_) htext p
  obtain ⟨c, -, -, rfl⟩ := more_eq_some h
  exact absurd hmem List.not_mem_nil

end OneTable.Multibyte

namespace OneTable

/-- The characters of a page are beyond ASCII if their bytes are. -/
theorem Page.char?_eq_some {p : Page} (hp : p.BeyondAscii) (b : UInt8) (c : Char)
    (h : p.char? b = some c) :
    b < 0x80 ∧ c = Char.ofNat b.toNat ∨ 0x80 ≤ b ∧ beyondAscii c = true := by
  rw [Page.char?] at h
  split at h
  · next hb => exact .inl ⟨hb, (Option.some.inj h).symm⟩
  next hb =>
  have hle : 0x80 ≤ b := UInt8.not_lt.1 hb
  refine .inr ⟨hle, ?_⟩
  simp only at h
  split at h
  · next hassigned =>
    obtain rfl := Option.some.inj h
    rw [List.getD_eq_getElem?_getD] at hassigned ⊢
    cases hget : p.upper[b.toNat - 0x80]? with
    | none => rw [hget] at hassigned; exact absurd rfl hassigned
    | some c => exact hp c (List.mem_of_getElem? hget)
  split at h
  · -- a control character
    obtain rfl := Option.some.inj h
    have hnat : 0x80 ≤ b.toNat := UInt8.le_iff_toNat_le.1 hle
    exact beyondAscii_ofNat hnat (.inl (Nat.lt_trans b.toNat_lt (by decide)))
  · exact absurd h.symm (Option.some_ne_none c)

/-- The characters of the private range are beyond ASCII. -/
theorem Encoding.privateChar_eq (b : UInt8) :
    b < 0x80 ∧ privateChar b = Char.ofNat b.toNat ∨
      0x80 ≤ b ∧ beyondAscii (privateChar b) = true := by
  rw [privateChar]
  split
  · next hb => exact .inl ⟨hb, rfl⟩
  · next hb =>
    have hlt := b.toNat_lt
    exact .inr ⟨UInt8.not_lt.1 hb, beyondAscii_ofNat (by omega) (.inr (by omega))⟩

end OneTable
