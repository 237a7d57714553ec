import Mathlib.Data.List.TakeWhile
import Mathlib.Tactic.Common
import OneTable.Encoding.Basic
import OneTable.Proofs.Encoding.Utf8

/-!
# Bytes beyond ASCII stand for characters beyond ASCII

The characters that take a file apart – delimiters, quotes and the ends of lines – are characters of
ASCII. An encoding may not bring in new ones: what it writes with bytes beyond ASCII has to be
characters beyond ASCII.

For the large tables and the code pages this is a matter of looking at them. They are written down
in long texts, and looking at a text character by character would take its bytes apart first. It is
faster to say what the characters are that a text is written down with (`OneTable.Page.Spelled`,
`OneTable.CharTable.Spelled`), and to look at those.

The characters of four bytes in GB 18030 are computed. There is a range for each of them, and the
numbers of a range end where the next one begins, so that no character is a surrogate or lies
beyond the last one.

* `OneTable.beyondAscii` – a character beyond ASCII;
* `OneTable.Page.beyondAscii_of_mem_all` – the code pages;
* `OneTable.CharTable.beyondAscii_jis0208` and so on – the tables;
* `OneTable.Gb18030.beyondAscii_of_wide?` – the characters of four bytes.
-/

namespace OneTable

/-- A character beyond ASCII. -/
def beyondAscii (c : Char) : Bool :=
  Nat.ble 0x80 c.toNat

theorem beyondAscii_iff {c : Char} : beyondAscii c = true ↔ 0x80 ≤ c.toNat :=
  iff_of_eq Nat.ble_eq

/-- A number beyond ASCII makes a character beyond ASCII, if it makes one at all. -/
theorem beyondAscii_ofNat {n : ℕ} (hn : 0x80 ≤ n) (hvalid : n.isValidChar) :
    beyondAscii (Char.ofNat n) = true := by
  have htoNat : (Char.ofNat n).toNat = n := Utf8.toNat_ofNat hvalid
  rwa [beyondAscii_iff, htoNat]

/-! ### Code pages -/

namespace Page

/-- **The upper half of a page is beyond ASCII.** -/
def BeyondAscii (p : Page) : Prop :=
  ∀ c ∈ p.upper, beyondAscii c = true

/-- **The characters that texts are written down with,** one text behind the other. -/
inductive Spelled : List Char → List (List Char) → Prop
  | open32 : Spelled open32 []
  | literal (cs : List Char) : Spelled (String.ofList cs).toList [cs]
  | text {s t : String} {ls ms : List (List Char)} (hs : Spelled s.toList ls)
      (ht : Spelled t.toList ms) : Spelled (s ++ t).toList (ls ++ ms)
  | append {cs ds : List Char} {ls ms : List (List Char)} (hs : Spelled cs ls)
      (ht : Spelled ds ms) : Spelled (cs ++ ds) (ls ++ ms)

theorem beyondAscii_of_spelled {upper : List Char} {ls : List (List Char)}
    (h : Spelled upper ls) (hall : ls.all (·.all beyondAscii) = true) :
    BeyondAscii ⟨upper⟩ := by
  unfold BeyondAscii
  induction h with
  | open32 => exact List.all_eq_true.1 rfl
  | literal cs => simpa using hall
  | text _ _ ihs iht =>
    rw [List.all_append, Bool.and_eq_true] at hall
    rw [String.toList_append]
    exact List.forall_mem_append.2 ⟨ihs hall.1, iht hall.2⟩
  | append _ _ ihs iht =>
    rw [List.all_append, Bool.and_eq_true] at hall
    exact List.forall_mem_append.2 ⟨ihs hall.1, iht hall.2⟩

/-- The pages that encodings have. -/
def all : List Page :=
  [ibm866, iso2, iso3, iso4, iso5, iso6, iso7, iso8, iso10, iso13, iso14, iso15, iso16, koi8R,
    koi8U, macRoman, windows874, windows1250, windows1251, windows1252, windows1253, windows1254,
    windows1255, windows1256, windows1257, windows1258, macCyrillic]

set_option maxRecDepth 2000 in
/-- **Every page that encodings have is beyond ASCII in its upper half.** -/
theorem beyondAscii_of_mem_all : ∀ p ∈ all, p.BeyondAscii := by
  simp only [all, List.forall_mem_cons, List.not_mem_nil, false_imp_iff, implies_true, and_true]
  and_intros
  all_goals
    apply beyondAscii_of_spelled
    · repeat' with_reducible constructor
    · decide +kernel

end Page

/-! ### Tables -/

namespace CharTable

/-- **The characters of a table are beyond ASCII.** -/
def BeyondAscii (t : CharTable) : Prop :=
  ∀ (number : ℕ) (c : Char), t.char? number = some c → beyondAscii c = true

/-- **The characters that pieces are written down with.** -/
inductive Spelled : List Piece → List (List Char) → Prop
  | nil : Spelled [] []
  | text {ps : List Piece} {ls : List (List Char)} (cs : List Char) (h : Spelled ps ls) :
      Spelled (.text (String.ofList cs) :: ps) (cs :: ls)
  | run {ps : List Piece} {ls : List (List Char)} (first : Char) (count : ℕ) (h : Spelled ps ls) :
      Spelled (.run first count :: ps) ((Piece.run first count).chars :: ls)
  | gap {ps : List Piece} {ls : List (List Char)} (count : ℕ) (h : Spelled ps ls) :
      Spelled (.gap count :: ps) ls

theorem beyondAscii_of_spelled {ps : List Piece} {ls : List (List Char)} (h : Spelled ps ls)
    (hall : ls.all (·.all beyondAscii) = true) : (ofPieces ps).BeyondAscii := by
  have hchars : ∀ c ∈ ps.flatMap Piece.chars, beyondAscii c = true := by
    induction h with
    | nil => exact fun c hc => absurd hc List.not_mem_nil
    | text cs _ ih =>
      rw [List.all_cons, Bool.and_eq_true] at hall
      rw [List.flatMap_cons, Piece.chars, String.toList_ofList]
      exact List.forall_mem_append.2 ⟨List.all_eq_true.1 hall.1, ih hall.2⟩
    | run first count _ ih =>
      rw [List.all_cons, Bool.and_eq_true] at hall
      rw [List.flatMap_cons]
      exact List.forall_mem_append.2 ⟨List.all_eq_true.1 hall.1, ih hall.2⟩
    | gap count _ ih =>
      rw [List.flatMap_cons, Piece.chars]
      refine List.forall_mem_append.2 ⟨fun c hc => ?_, ih hall⟩
      rw [List.eq_of_mem_replicate hc]
      decide
  intro number c hc
  rw [char?, ofPieces] at hc
  obtain ⟨hget, -⟩ := Option.filter_eq_some_iff.1 hc
  exact hchars c (List.mem_toArray.1 (Array.mem_of_getElem? hget))

section Tables

set_option maxRecDepth 100000

theorem beyondAscii_jis0208 : jis0208.BeyondAscii := by
  unfold jis0208
  apply beyondAscii_of_spelled
  · repeat' constructor
  · decide +kernel

theorem beyondAscii_jis0212 : jis0212.BeyondAscii := by
  unfold jis0212
  apply beyondAscii_of_spelled
  · repeat' constructor
  · decide +kernel

theorem beyondAscii_big5 : big5.BeyondAscii := by
  unfold big5
  apply beyondAscii_of_spelled
  · repeat' constructor
  · decide +kernel

theorem beyondAscii_gb18030 : gb18030.BeyondAscii := by
  unfold gb18030
  apply beyondAscii_of_spelled
  · repeat' constructor
  · decide +kernel

theorem beyondAscii_ksX1001 : ksX1001.BeyondAscii := by
  unfold ksX1001
  apply beyondAscii_of_spelled
  · repeat' constructor
  · decide +kernel

end Tables

end CharTable

/-! ### Characters of four bytes -/

namespace Gb18030

/-- The codes of a range are characters beyond ASCII up to the first number of the next range, and
those of the last one up to a limit. -/
def fits : List (ℕ × ℕ) → ℕ → Bool
  | [], _ => true
  | (first, code) :: rest, limit =>
    let next := (rest.head?.map Prod.fst).getD limit
    decide (0x80 ≤ code) &&
      (decide (code + (next - first) ≤ 0xD800) ||
        decide (0xE000 ≤ code) && decide (code + (next - first) ≤ 0x110000)) && fits rest limit

/-- **The code of a number below the limit,** in the last range that does not begin behind it. -/
theorem beyondAscii_of_fits {rs : List (ℕ × ℕ)} {limit number first code : ℕ}
    (hfits : fits rs limit = true) (hlimit : number < limit)
    (h : (rs.takeWhile fun r => r.1 ≤ number).getLast? = some (first, code)) :
    beyondAscii (Char.ofNat (code + (number - first))) = true := by
  induction rs with
  | nil => exact absurd h.symm (Option.some_ne_none _)
  | cons r rs ih =>
    obtain ⟨f, c⟩ := r
    simp only [fits, Bool.and_eq_true, Bool.or_eq_true, decide_eq_true_eq] at hfits
    obtain ⟨⟨hcode, hvalid⟩, hrest⟩ := hfits
    by_cases hf : f ≤ number
    · rw [List.takeWhile_cons_of_pos (by simpa using hf)] at h
      rcases hlast : (rs.takeWhile fun r => r.1 ≤ number).getLast? with _ | last
      · -- the range is the last one, and the number lies in front of the next
        rw [List.getLast?_cons, hlast, Option.getD_none] at h
        obtain ⟨rfl, rfl⟩ := Prod.mk.inj (Option.some.inj h)
        have hnext : number < (rs.head?.map Prod.fst).getD limit := by
          rcases rs with _ | ⟨⟨f', c'⟩, rs⟩
          · exact hlimit
          · have hnil := List.getLast?_eq_none_iff.1 hlast
            by_contra hle
            rw [List.takeWhile_cons_of_pos (by simpa using hle)] at hnil
            exact absurd hnil (List.cons_ne_nil _ _)
        refine beyondAscii_ofNat (by omega) ?_
        simp only [Nat.isValidChar]
        omega
      · rw [List.getLast?_cons, hlast, Option.getD_some] at h
        exact ih hrest (hlast.trans h)
    · rw [List.takeWhile_cons_of_neg (by simpa using hf)] at h
      exact absurd h.symm (Option.some_ne_none _)

/-- The ranges of the characters up to the last one of two bytes in UTF-16. -/
def narrow : List (ℕ × ℕ) :=
  ranges.dropLast

/-- The range of the other characters. -/
def broad : ℕ × ℕ :=
  (189000, 0x10000)

theorem ranges_eq : ranges = narrow ++ [broad] := by decide +kernel

theorem fits_narrow : fits narrow (lastNarrow + 1) = true := by decide +kernel

/-- Every range but the last begins with a number that is not behind the last narrow one. -/
theorem le_lastNarrow : ∀ r ∈ narrow, r.1 ≤ lastNarrow := by decide +kernel

/-- **The characters of four bytes are beyond ASCII.** -/
theorem beyondAscii_of_wide? {number : ℕ} {c : Char} (h : wide? number = some c) :
    beyondAscii c = true := by
  rw [wide?] at h
  split at h
  · exact absurd h.symm (Option.some_ne_none c)
  next hopen =>
  split at h
  · obtain rfl := Option.some.inj h
    decide
  split at h
  · next first code hlast =>
    obtain rfl := Option.some.inj h
    simp only [isOpen, Bool.or_eq_true, Bool.and_eq_true, decide_eq_true_eq, not_or, not_and,
      Nat.not_lt] at hopen
    rw [ranges_eq] at hlast
    by_cases hnarrow : number ≤ lastNarrow
    · -- the last range begins behind the number
      have hbroad : ¬broad.1 ≤ number := Nat.not_le.2 (Nat.lt_of_le_of_lt hnarrow (by decide))
      have hwhile : (narrow ++ [broad]).takeWhile (fun r => decide (r.1 ≤ number)) =
          narrow.takeWhile fun r => decide (r.1 ≤ number) := by
        rw [List.takeWhile_append, List.takeWhile_cons_of_neg (by simpa using hbroad),
          List.append_nil]
        split
        · next hlength => exact ((List.takeWhile_prefix _).eq_of_length hlength).symm
        · rfl
      rw [hwhile] at hlast
      exact beyondAscii_of_fits fits_narrow (Nat.lt_succ_of_le hnarrow) hlast
    · have hbroad : broad.1 ≤ number := hopen.1 (Nat.lt_of_not_le hnarrow)
      have hall : ∀ r ∈ narrow ++ [broad], decide (r.1 ≤ number) = true := by
        intro r hr
        rcases List.mem_append.1 hr with hr | hr
        · exact decide_eq_true (Nat.le_trans (le_lastNarrow r hr) (Nat.le_of_not_le hnarrow))
        · exact decide_eq_true (List.mem_singleton.1 hr ▸ hbroad)
      rw [List.takeWhile_eq_self_iff.2 hall, List.getLast?_concat] at hlast
      obtain ⟨rfl, rfl⟩ := Prod.mk.inj (Option.some.inj hlast)
      refine beyondAscii_ofNat (Nat.le_add_right_of_le (by decide)) (.inr ?_)
      have hlast : number ≤ 1237575 := hopen.2
      omega
  · exact absurd h.symm (Option.some_ne_none c)

end Gb18030

end OneTable
