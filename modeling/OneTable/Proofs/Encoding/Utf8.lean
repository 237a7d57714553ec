import Mathlib.Algebra.Group.Nat.Defs
import Mathlib.Tactic.Common
import OneTable.Encoding.Utf8

/-!
# Texts are told by their bytes

The bytes of a character carry the digits of its number to the base 64, the first byte fewer of
them than the others. What the decoder asks of the first two bytes is that the character could not
have been written with fewer bytes, and that it is a character at all; both hold of what was
encoded, and putting the digits together gives the number again. The way back is the same
arithmetic: the digits that were put together are the digits of the number.

* `OneTable.Utf8.decode?_two`, `OneTable.Utf8.decode?_three`, `OneTable.Utf8.decode?_four` – what
  the bytes of a character are decoded to;
* `OneTable.Utf8.decode?_utf8EncodeChar` – the bytes of one character;
* `OneTable.Utf8.decode?_encode` – **the bytes of a text are decoded to the text**;
* `OneTable.Utf8.eq_encode_of_decode?` – **bytes that have a text are the bytes of the text**;
* `OneTable.Utf8.le_of_mem_utf8EncodeChar` – beyond ASCII, no byte is one of ASCII.
-/

namespace OneTable.Utf8

/-! ### The bytes of a character -/

section Bytes

variable {a b c d : UInt8}

/-- The first byte of a character of more than one byte is no character of its own. -/
theorem not_ascii_of_le {k : UInt8} (hk : 0x80 ≤ k) (ha : k ≤ a) : ¬a < 0x80 :=
  UInt8.not_lt.2 (UInt8.le_trans hk ha)

theorem decode?_one (ha : a < 0x80) (r : List UInt8) :
    decode? (a :: r) = (decode? r).map (Char.ofNat a.toNat :: ·) := by
  rw [decode?.eq_def]
  exact if_pos ha

theorem decode?_two (ha : 0xC2 ≤ a) (ha' : a ≤ 0xDF) (hb : continues b = true) (r : List UInt8) :
    decode? (a :: b :: r) =
      (decode? r).map (Char.ofNat (a.toNat % 32 * 64 + payload b) :: ·) := by
  rw [decode?.eq_def]
  exact (if_neg (not_ascii_of_le (by decide) ha)).trans (if_pos ⟨ha, ha', hb⟩)

theorem decode?_three (h : opensThree a b = true) (hc : continues c = true) (r : List UInt8) :
    decode? (a :: b :: c :: r) =
      (decode? r).map (Char.ofNat ((a.toNat % 16 * 64 + payload b) * 64 + payload c) :: ·) := by
  have ha : 0xE0 ≤ a := by
    simp only [opensThree, Bool.and_eq_true, decide_eq_true_eq] at h
    exact h.1.1.1.2
  have hone : ¬a < 0x80 := not_ascii_of_le (by decide) ha
  have htwo : ¬(0xC2 ≤ a ∧ a ≤ 0xDF ∧ continues b = true) := fun h' =>
    absurd (UInt8.le_trans ha h'.2.1) (by decide)
  rw [decode?.eq_def]
  exact (if_neg hone).trans <| (if_neg htwo).trans <| if_pos ⟨h, hc⟩

theorem decode?_four (h : opensFour a b = true) (hc : continues c = true)
    (hd : continues d = true) (r : List UInt8) :
    decode? (a :: b :: c :: d :: r) =
      (decode? r).map
        (Char.ofNat (((a.toNat % 8 * 64 + payload b) * 64 + payload c) * 64 + payload d) :: ·) := by
  have ha : 0xF0 ≤ a := by
    simp only [opensFour, Bool.and_eq_true, decide_eq_true_eq] at h
    exact h.1.1.1.2
  have hone : ¬a < 0x80 := not_ascii_of_le (by decide) ha
  have htwo : ¬(0xC2 ≤ a ∧ a ≤ 0xDF ∧ continues b = true) := fun h' =>
    absurd (UInt8.le_trans ha h'.2.1) (by decide)
  have hthree : ¬(opensThree a b = true ∧ continues c = true) := by
    simp only [opensThree, Bool.and_eq_true, decide_eq_true_eq]
    exact fun h' => absurd (UInt8.le_trans ha h'.1.1.1.2) (by decide)
  rw [decode?.eq_def]
  exact (if_neg hone).trans <| (if_neg htwo).trans <| (if_neg hthree).trans <|
    if_pos ⟨h, hc, hd⟩

end Bytes

/-! ### Characters -/

/-- A byte behind the first one is told by its six bits. -/
theorem continues_ofNat : ∀ n < 64, continues (UInt8.ofNat (n + 128)) = true := by
  decide

theorem payload_ofNat : ∀ n < 64, payload (UInt8.ofNat (n + 128)) = n := by
  decide

theorem bounds_ofNat : ∀ n < 32, 2 ≤ n →
    0xC2 ≤ UInt8.ofNat (n + 192) ∧ UInt8.ofNat (n + 192) ≤ 0xDF := by
  decide

/-- Three bytes are needed, and what they tell is no surrogate. -/
theorem opensThree_ofNat : ∀ m < 16, ∀ n < 64, (m = 0 → 32 ≤ n) → (m = 13 → n < 32) →
    opensThree (UInt8.ofNat (m + 224)) (UInt8.ofNat (n + 128)) = true := by
  decide +kernel

/-- Four bytes are needed, and what they tell does not lie beyond the last character. -/
theorem opensFour_ofNat : ∀ m < 5, ∀ n < 64, (m = 0 → 16 ≤ n) → (m = 4 → n < 16) →
    opensFour (UInt8.ofNat (m + 240)) (UInt8.ofNat (n + 128)) = true := by
  decide +kernel

/-- **The bytes of a character are decoded to the character.** -/
theorem decode?_utf8EncodeChar (c : Char) (r : List UInt8) :
    decode? (String.utf8EncodeChar c ++ r) = (decode? r).map (c :: ·) := by
  have hvalid : c.toNat < 0xD800 ∨ 0xDFFF < c.toNat ∧ c.toNat < 0x110000 := c.valid
  have hchar : ∀ n, n = c.toNat → Char.ofNat n = c := fun n hn => hn ▸ c.ofNat_toNat
  have hval : c.val.toNat = c.toNat := rfl
  have hdigit : ∀ n, n % 64 < 64 := fun n => Nat.mod_lt n (by decide)
  have htoNat : ∀ n, n < 256 → (UInt8.ofNat n).toNat = n := fun n hn => UInt8.toNat_ofNat_of_lt' hn
  rw [String.utf8EncodeChar]
  simp only [hval]
  -- one case for each number of bytes
  split
  · next hone =>
    have hbyte := htoNat c.toNat (by omega)
    have hascii : UInt8.ofNat c.toNat < 0x80 := by
      rw [UInt8.lt_iff_toNat_lt, hbyte]
      exact Nat.lt_succ_of_le hone
    rw [List.singleton_append, decode?_one hascii, hbyte, hchar _ rfl]
  split
  · next htwo =>
    have hfirst := bounds_ofNat (c.toNat / 64 % 32) (by omega) (by omega)
    have hbyte := htoNat (c.toNat / 64 % 32 + 192) (by omega)
    simp only [List.cons_append, List.nil_append]
    rw [decode?_two hfirst.1 hfirst.2 (continues_ofNat _ (hdigit _)), hbyte,
      payload_ofNat _ (hdigit _), hchar _ (by omega)]
  split
  · next hthree =>
    have hfirst := opensThree_ofNat (c.toNat / 4096 % 16) (by omega) (c.toNat / 64 % 64)
      (hdigit _) (by omega) (by omega)
    have hbyte := htoNat (c.toNat / 4096 % 16 + 224) (by omega)
    simp only [List.cons_append, List.nil_append]
    rw [decode?_three hfirst (continues_ofNat _ (hdigit _)), hbyte,
      payload_ofNat _ (hdigit _), payload_ofNat _ (hdigit _), hchar _ (by omega)]
  · have hfirst := opensFour_ofNat (c.toNat / 262144 % 8) (by omega) (c.toNat / 4096 % 64)
      (hdigit _) (by omega) (by omega)
    have hbyte := htoNat (c.toNat / 262144 % 8 + 240) (by omega)
    simp only [List.cons_append, List.nil_append]
    rw [decode?_four hfirst (continues_ofNat _ (hdigit _)) (continues_ofNat _ (hdigit _)), hbyte,
      payload_ofNat _ (hdigit _), payload_ofNat _ (hdigit _), payload_ofNat _ (hdigit _),
      hchar _ (by omega)]

/-- **The bytes of a text are decoded to the text.** -/
theorem decode?_encode (cs : List Char) : decode? (encode cs) = some cs := by
  induction cs with
  | nil => rfl
  | cons c cs ih => rw [encode_cons, decode?_utf8EncodeChar, ih, Option.map_some]

/-! ### The way back -/

section Back

variable {a b c d : UInt8} {n : ℕ}

/-- A number that is one of a character is the number of its character. -/
theorem toNat_ofNat (h : n.isValidChar) : (Char.ofNat n).val.toNat = n := by
  rw [Char.ofNat, dif_pos h]
  rfl

/-- A byte is told by its number. -/
theorem ofNat_eq_of_toNat_eq (h : n = a.toNat) : UInt8.ofNat n = a := by
  rw [h, UInt8.ofNat_toNat]

/-- The six bits of a byte behind the first one tell the byte. -/
theorem toNat_of_continues (h : continues b = true) : b.toNat = payload b + 128 := by
  simp only [continues, Bool.and_eq_true, decide_eq_true_eq, UInt8.le_iff_toNat_le] at h
  simp at h
  rw [payload]
  omega

theorem utf8EncodeChar_one (ha : a < 0x80) :
    String.utf8EncodeChar (Char.ofNat a.toNat) = [a] := by
  have hlt : a.toNat < 128 := UInt8.lt_iff_toNat_lt.1 ha
  have hval := toNat_ofNat (n := a.toNat) (.inl (by omega))
  simp only [String.utf8EncodeChar, hval]
  rw [if_pos (by omega), UInt8.ofNat_toNat]

theorem utf8EncodeChar_two (ha : 0xC2 ≤ a) (ha' : a ≤ 0xDF) (hb : continues b = true) :
    String.utf8EncodeChar (Char.ofNat (a.toNat % 32 * 64 + payload b)) = [a, b] := by
  have hge : 0xC2 ≤ a.toNat := UInt8.le_iff_toNat_le.1 ha
  have hle : a.toNat ≤ 0xDF := UInt8.le_iff_toNat_le.1 ha'
  have hpay : payload b < 64 := Nat.mod_lt _ (by decide)
  have hcont := toNat_of_continues hb
  have hval := toNat_ofNat (n := a.toNat % 32 * 64 + payload b) (.inl (by omega))
  simp only [String.utf8EncodeChar, hval]
  rw [if_neg (by omega), if_pos (by omega), ofNat_eq_of_toNat_eq (a := a) (by omega),
    ofNat_eq_of_toNat_eq (a := b) (by omega)]

theorem utf8EncodeChar_three (h : opensThree a b = true) (hc : continues c = true) :
    String.utf8EncodeChar
      (Char.ofNat ((a.toNat % 16 * 64 + payload b) * 64 + payload c)) = [a, b, c] := by
  simp only [opensThree, Bool.and_eq_true, Bool.or_eq_true, decide_eq_true_eq, bne_iff_ne,
    UInt8.le_iff_toNat_le, ne_eq, ← UInt8.toNat_inj] at h
  obtain ⟨⟨⟨⟨hb, hge⟩, hle⟩, hshort⟩, hsurrogate⟩ := h
  simp at hge hle hshort hsurrogate
  have hpayb : payload b < 64 := Nat.mod_lt _ (by decide)
  have hpayc : payload c < 64 := Nat.mod_lt _ (by decide)
  have hcontb := toNat_of_continues hb
  have hcontc := toNat_of_continues hc
  have hval := toNat_ofNat (n := (a.toNat % 16 * 64 + payload b) * 64 + payload c)
    (by simp only [Nat.isValidChar]; omega)
  simp only [String.utf8EncodeChar, hval]
  rw [if_neg (by omega), if_neg (by omega), if_pos (by omega),
    ofNat_eq_of_toNat_eq (a := a) (by omega), ofNat_eq_of_toNat_eq (a := b) (by omega),
    ofNat_eq_of_toNat_eq (a := c) (by omega)]

theorem utf8EncodeChar_four (h : opensFour a b = true) (hc : continues c = true)
    (hd : continues d = true) :
    String.utf8EncodeChar
      (Char.ofNat (((a.toNat % 8 * 64 + payload b) * 64 + payload c) * 64 + payload d)) =
        [a, b, c, d] := by
  simp only [opensFour, Bool.and_eq_true, Bool.or_eq_true, decide_eq_true_eq, bne_iff_ne,
    UInt8.le_iff_toNat_le, ne_eq, ← UInt8.toNat_inj] at h
  obtain ⟨⟨⟨⟨hb, hge⟩, hle⟩, hshort⟩, hlast⟩ := h
  simp at hge hle hshort hlast
  have hpayb : payload b < 64 := Nat.mod_lt _ (by decide)
  have hpayc : payload c < 64 := Nat.mod_lt _ (by decide)
  have hpayd : payload d < 64 := Nat.mod_lt _ (by decide)
  have hcontb := toNat_of_continues hb
  have hcontc := toNat_of_continues hc
  have hcontd := toNat_of_continues hd
  have hval := toNat_ofNat
    (n := ((a.toNat % 8 * 64 + payload b) * 64 + payload c) * 64 + payload d)
    (by simp only [Nat.isValidChar]; omega)
  simp only [String.utf8EncodeChar, hval]
  rw [if_neg (by omega), if_neg (by omega), if_neg (by omega),
    ofNat_eq_of_toNat_eq (a := a) (by omega), ofNat_eq_of_toNat_eq (a := b) (by omega),
    ofNat_eq_of_toNat_eq (a := c) (by omega), ofNat_eq_of_toNat_eq (a := d) (by omega)]

end Back

/-- **Bytes that have a text are the bytes of the text.** -/
theorem eq_encode_of_decode? {bytes : List UInt8} {text : List Char}
    (h : decode? bytes = some text) : bytes = encode text := by
  -- one case for each number of bytes, and one for what is no character
  induction bytes using decode?.induct generalizing text with
  | case1 =>
    obtain rfl := Option.some.inj h
    rfl
  | case2 a r ha ih =>
    rw [decode?_one ha] at h
    obtain ⟨cs, hcs, rfl⟩ := Option.map_eq_some_iff.1 h
    rw [encode_cons, utf8EncodeChar_one ha, ← ih hcs, List.singleton_append]
  | case4 a ha b r htwo ih =>
    rw [decode?_two htwo.1 htwo.2.1 htwo.2.2] at h
    obtain ⟨cs, hcs, rfl⟩ := Option.map_eq_some_iff.1 h
    rw [encode_cons, utf8EncodeChar_two htwo.1 htwo.2.1 htwo.2.2, ← ih hcs]
    rfl
  | case6 a ha b htwo c r hthree ih =>
    rw [decode?_three hthree.1 hthree.2] at h
    obtain ⟨cs, hcs, rfl⟩ := Option.map_eq_some_iff.1 h
    rw [encode_cons, utf8EncodeChar_three hthree.1 hthree.2, ← ih hcs]
    rfl
  | case8 a ha b htwo c hthree d r hfour ih =>
    rw [decode?_four hfour.1 hfour.2.1 hfour.2.2] at h
    obtain ⟨cs, hcs, rfl⟩ := Option.map_eq_some_iff.1 h
    rw [encode_cons, utf8EncodeChar_four hfour.1 hfour.2.1 hfour.2.2, ← ih hcs]
    rfl
  | case3 a ha => simp [decode?, ha] at h
  | case5 a ha b htwo => simp [decode?, ha, htwo] at h
  | case7 a ha b htwo c hthree => simp [decode?, ha, htwo, hthree] at h
  | case9 a ha b htwo c hthree d r hfour => simp [decode?, ha, htwo, hthree, hfour] at h

/-! ### What a text begins with, and what it is made of -/

/-- The bytes of a character beyond ASCII are beyond ASCII. -/
theorem le_of_mem_utf8EncodeChar {c : Char} (hc : 0x80 ≤ c.toNat) :
    ∀ b ∈ String.utf8EncodeChar c, 0x80 ≤ b := by
  have hval : 0x80 ≤ c.val.toNat := hc
  have hbyte : ∀ n, 128 ≤ n → n < 256 → 0x80 ≤ UInt8.ofNat n := fun n hn hlt => by
    rwa [UInt8.le_iff_toNat_le, UInt8.toNat_ofNat_of_lt' hlt]
  simp only [String.utf8EncodeChar]
  split
  · omega
  split
  · simp only [List.forall_mem_cons, List.not_mem_nil, false_imp_iff, implies_true, and_true]
    exact ⟨hbyte _ (by omega) (by omega), hbyte _ (by omega) (by omega)⟩
  split
  · simp only [List.forall_mem_cons, List.not_mem_nil, false_imp_iff, implies_true, and_true]
    exact ⟨hbyte _ (by omega) (by omega), hbyte _ (by omega) (by omega),
      hbyte _ (by omega) (by omega)⟩
  · simp only [List.forall_mem_cons, List.not_mem_nil, false_imp_iff, implies_true, and_true]
    exact ⟨hbyte _ (by omega) (by omega), hbyte _ (by omega) (by omega),
      hbyte _ (by omega) (by omega), hbyte _ (by omega) (by omega)⟩

theorem utf8EncodeChar_ne_nil (c : Char) : String.utf8EncodeChar c ≠ [] := by
  simp only [String.utf8EncodeChar]
  split
  · exact List.cons_ne_nil _ _
  split
  · exact List.cons_ne_nil _ _
  split <;> exact List.cons_ne_nil _ _

/-- Bytes that begin like a byte order mark are those of a text that begins with its character. -/
theorem head?_of_encode_eq {text : List Char} {r : List UInt8}
    (h : encode text = 0xEF :: 0xBB :: 0xBF :: r) : text.head? = some '\ufeff' := by
  have hdecode := decode?_encode text
  rw [h, decode?_three (by decide) (by decide)] at hdecode
  obtain ⟨cs, -, rfl⟩ := Option.map_eq_some_iff.1 hdecode
  rfl

end OneTable.Utf8
