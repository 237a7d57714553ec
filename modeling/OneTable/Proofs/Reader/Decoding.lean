import Mathlib.Data.List.Forall2
import Mathlib.Tactic.Common
import OneTable.Proofs.Csv.Alike
import OneTable.Proofs.Encoding.Schemes
import OneTable.Proofs.Encoding.Utf8
import OneTable.Source.Csv

/-!
# Cells are read as the file is read

A file is taken apart into cells first, and every cell is decoded for itself. One would like it to
be the same as if the file were decoded first and its text taken apart.

It is, if no letter of the file is torn: where the file is taken apart, the bytes of a letter that
does not stand for itself have to be taken into one cell, and the bytes of its characters in UTF-8
as well. Then the file and its text in UTF-8 differ in runs of such bytes only, a cell is a row of
letters, and a row of letters has its text wherever it stands. Byte order marks are the other thing
that can go wrong, since they are looked for in every single cell.

* `OneTable.intact_of_leavesAscii` – delimiters that tear no letter;
* `OneTable.CsvOptions.Legible` – the files for which this holds;
* `OneTable.CsvOptions.SameTexts` – two tables with the same texts;
* `OneTable.CsvOptions.sameTexts_of_legible` – **decoding cells is decoding the file**.
-/

namespace OneTable

open Multibyte

/-! ### Bytes that are read on their own -/

namespace Encoding

/-- **Bytes that begin with no byte order mark.** -/
structure Unmarked (bytes : List UInt8) : Prop where
  utf8 : ¬Csv.byteOrderMark <+: bytes
  lowFirst : ¬[0xFF, 0xFE] <+: bytes
  highFirst : ¬[0xFE, 0xFF] <+: bytes

instance (bytes : List UInt8) : Decidable (Unmarked bytes) :=
  decidable_of_iff
    (¬Csv.byteOrderMark <+: bytes ∧ ¬[0xFF, 0xFE] <+: bytes ∧ ¬[0xFE, 0xFF] <+: bytes)
    ⟨fun h => ⟨h.1, h.2.1, h.2.2⟩, fun h => ⟨h.1, h.2, h.3⟩⟩

theorem announced_of_unmarked {bytes : List UInt8} (h : Unmarked bytes) (scheme : Scheme) :
    announced scheme bytes = (scheme, bytes) := by
  unfold announced
  split
  · next r => exact absurd (List.prefix_append Csv.byteOrderMark r) h.utf8
  · next r => exact absurd (List.prefix_append [0xFF, 0xFE] r) h.lowFirst
  · next r => exact absurd (List.prefix_append [0xFE, 0xFF] r) h.highFirst
  · rfl

/-- **A cell that an encoding reads on its own:** it begins with no byte order mark, and no escape
follows another one directly. -/
structure Clean (e : Encoding) (cell : Csv.Cell) : Prop where
  unmarked : Unmarked cell
  uncrowded : e.scheme = .escaped → ¬Escaped.Crowded cell

variable {e : Encoding} {rule : Rule} {cell : Csv.Cell} {text : List Char}

/-- Where there are no escapes, only byte order marks matter. -/
theorem clean_of_unmarked (he : e.scheme ≠ .escaped) (h : Unmarked cell) : e.Clean cell :=
  ⟨h, fun hescaped => absurd hescaped he⟩

theorem decode?_of_clean (h : e.Clean cell) : e.decode? cell = e.scheme.decode? cell := by
  rw [decode?, announced_of_unmarked h.unmarked]

/-- A clean cell is read as its text under the rule of the encoding. -/
theorem decode_of_rule (h : e.Clean cell) (hrule : e.scheme.rule? = some rule)
    (htext : Multibyte.decode? rule cell = some text) :
    e.decode cell = .ok (String.ofList text) := by
  rw [decode, decode?_of_clean h, Scheme.decode?_of_rule hrule htext h.uncrowded]

/-- A clean cell in UTF-8 is read as its text. -/
theorem decode_encode (h : unicode.Clean (Utf8.encode text)) :
    unicode.decode (Utf8.encode text) = .ok (String.ofList text) := by
  have hscheme : unicode.scheme.decode? (Utf8.encode text) = some text := Utf8.decode?_encode text
  rw [decode, decode?_of_clean h, hscheme]

end Encoding

/-! ### Delimiters that tear no letter -/

/-- **A delimiter of ASCII tears no letter** under an encoding that leaves ASCII alone; only where
letters have several bytes it may not be a digit or stand behind the question mark in ASCII. -/
theorem intact_of_leavesAscii {e : Encoding} {rule : Rule} {delimiter : UInt8}
    {bytes : List UInt8} {text : List Char} (he : e ∈ Encoding.all)
    (hleaves : e.scheme.leavesAscii = true) (hrule : e.scheme.rule? = some rule)
    (hascii : delimiter < 0x80) (htrails : ∀ wide, e.scheme = .multibyte wide → ¬Trails delimiter)
    (htext : e.scheme.decode? bytes = some text) (p : Csv.Place) :
    Intact rule delimiter p bytes := by
  have hregular := Encoding.isRegular_of_mem_all e he hleaves rule hrule
  have hspecial : ∀ x, Csv.isSpecial delimiter x = true →
      x = delimiter ∨ x < 0x80 ∧ ¬Trails x := by
    intro x hx
    simp only [Csv.isSpecial, Csv.endsRow, Bool.or_eq_true, beq_iff_eq] at hx
    rcases hx with (rfl | rfl) | rfl | rfl
    · exact .inl rfl
    · exact .inr (by decide)
    · exact .inr (by decide)
    · exact .inr (by decide)
  have hlow : ∀ x, Csv.isSpecial delimiter x = true → x < 0x80 := by
    intro x hx
    rcases hspecial x hx with rfl | hx
    · exact hascii
    · exact hx.1
  have hread := Encoding.Scheme.decode?_rule hrule htext
  generalize e.scheme = scheme at hleaves hrule htrails
  cases scheme with
  | utf8 | utf16 | escaped => cases hleaves
  | page | privateUse | unreadable => cases hrule; exact intact_singly hregular hlow hread p
  | multibyte wide =>
    refine hregular.intact_of_not_trails (fun x hx => ?_) hread p
    rcases hspecial x hx with rfl | hx
    · exact ⟨hascii, htrails wide rfl⟩
    · exact hx

/-! ### Tables -/

namespace CsvOptions

/-- The same options for files in UTF-8. -/
def inUnicode (o : CsvOptions) : CsvOptions := { o with encoding := Encoding.unicode }

/-- **Two tables with the same texts,** each read with its own options: the header has the same
texts, and so has every row below it, or it is the same fault. -/
abbrev SameTexts (o o' : CsvOptions) : Csv.Table → Csv.Table → Prop :=
  Csv.Table.Related fun cells cells' => o.texts cells = o'.texts cells'

/-- **A file whose cells are read as the file is read.** In UTF-8 it may have one byte order mark,
but not two, and not that of UTF-16. In any other encoding what is behind a mark of UTF-8 has the
text in the encoding itself, no letter is torn, and neither the text nor any cell begins with a byte
order mark. -/
inductive Legible (o : CsvOptions) (path : String) (bytes : List UInt8) (text : List Char) : Prop
  | unicode (hencoding : o.encoding = Encoding.unicode) (hlow : ¬[0xFF, 0xFE] <+: bytes)
      (hhigh : ¬[0xFE, 0xFF] <+: bytes) (htext : text.head? ≠ some '\ufeff')
  | letters (rule : Rule) (hrule : o.encoding.scheme.rule? = some rule)
      (hread : o.encoding.scheme.decode? (Csv.unmarked bytes) = some text)
      (hintact : Intact rule (Delimiter.ofInput path o.delimiter) .row (Csv.unmarked bytes))
      (htext : text.head? ≠ some '\ufeff')
      (hcells : ∀ cell ∈ (o.table path bytes).cells, o.encoding.Clean cell)
      (hcells' : ∀ cell ∈ (o.inUnicode.table path (Utf8.encode text)).cells,
        Encoding.unicode.Clean cell)

variable {o : CsvOptions} {path : String} {rule : Rule} {cells cells' : List Csv.Cell}
  {bytes : List UInt8} {text : List Char} {t t' : Csv.Table}

/-- Tables with equal cells have the same texts. -/
theorem sameTexts_of_related_eq (h : Csv.Table.Related (List.Forall₂ Eq) t t') :
    SameTexts o o t t' := by
  refine h.imp fun cells cells' _ _ heq => ?_
  rw [List.forall₂_eq_eq_eq] at heq
  rw [heq]

/-- Clean cells have the texts that they have under the rule of the encoding. -/
theorem texts_eq (hrule : o.encoding.scheme.rule? = some rule)
    (h : List.Forall₂ (Reads rule) cells cells') (hclean : ∀ cell ∈ cells, o.encoding.Clean cell)
    (hclean' : ∀ cell ∈ cells', Encoding.unicode.Clean cell) :
    o.texts cells = o.inUnicode.texts cells' := by
  have hmapM : cells.mapM o.encoding.decode = cells'.mapM Encoding.unicode.decode := by
    induction h with
    | nil => rfl
    | @cons cell cell' cells cells' hcell _ ih =>
      obtain ⟨hhead, htail⟩ := List.forall_mem_cons.1 hclean
      obtain ⟨hhead', htail'⟩ := List.forall_mem_cons.1 hclean'
      obtain ⟨text, htext, rfl⟩ := hcell
      rw [List.mapM_cons, List.mapM_cons, Encoding.decode_of_rule hhead hrule htext,
        Encoding.decode_encode hhead', ih htail htail']
  rw [texts, texts, hmapM]
  rfl

/-- Tables with clean cells have the texts that their cells have under the rule. -/
theorem sameTexts_of_reads (hrule : o.encoding.scheme.rule? = some rule)
    (h : Csv.Table.Related (List.Forall₂ (Reads rule)) t t')
    (hclean : ∀ cell ∈ t.cells, o.encoding.Clean cell)
    (hclean' : ∀ cell ∈ t'.cells, Encoding.unicode.Clean cell) :
    SameTexts o o.inUnicode t t' := by
  refine h.imp fun cells cells' hsub hsub' hcells => texts_eq hrule hcells ?_ ?_
  · exact fun cell hcell => hclean cell (hsub hcell)
  · exact fun cell hcell => hclean' cell (hsub' hcell)

/-! ### Files -/

/-- A text that does not begin with a byte order mark has none in UTF-8. -/
theorem unmarked_encode (h : text.head? ≠ some '\ufeff') :
    Csv.unmarked (Utf8.encode text) = Utf8.encode text := by
  refine Csv.unmarked_eq_self ?_
  rintro ⟨r, hr⟩
  exact h (Utf8.head?_of_encode_eq hr.symm)

/-- A file in UTF-8 is its text, but for a byte order mark. -/
theorem unmarked_eq_of_decode?_unicode (hlow : ¬[0xFF, 0xFE] <+: bytes)
    (hhigh : ¬[0xFE, 0xFF] <+: bytes) (h : Encoding.unicode.decode? bytes = some text) :
    Csv.unmarked bytes = Utf8.encode text := by
  by_cases hmark : Csv.byteOrderMark <+: bytes
  · obtain ⟨r, rfl⟩ := hmark
    have hr : Utf8.decode? r = some text := h
    exact Utf8.eq_encode_of_decode? hr
  · rw [Encoding.decode?, Encoding.announced_of_unmarked ⟨hmark, hlow, hhigh⟩] at h
    rw [Csv.unmarked_eq_self hmark]
    exact Utf8.eq_encode_of_decode? h

/-- The encoding of a label is one of them. -/
theorem mem_all_of_ofLabel {label : Option String} {e : Encoding}
    (h : Encoding.ofLabel label = .ok e) : e ∈ Encoding.all := by
  unfold Encoding.ofLabel at h
  split at h
  · obtain rfl := Except.ok.inj h
    exact List.mem_cons_self
  split at h
  · next hfound =>
    obtain rfl := Except.ok.inj h
    unfold Encoding.ofLabel? at hfound
    exact List.mem_of_find?_eq_some hfound
  · exact absurd h nofun

/-- **Decoding cells is decoding the file.** -/
theorem sameTexts_of_legible (label : Option String)
    (hlabel : Encoding.ofLabel label = .ok o.encoding)
    (htext : o.encoding.decode? bytes = some text) (h : Legible o path bytes text) :
    SameTexts o o.inUnicode (o.table path bytes) (o.inUnicode.table path (Utf8.encode text)) := by
  cases h with
  | unicode hencoding hlow hhigh hhead =>
    have hunicode : o.inUnicode = o := by rw [inUnicode, ← hencoding]
    rw [hencoding] at htext
    rw [hunicode]
    -- the decoder of the file drops its mark, and so does the reader of rows
    refine sameTexts_of_related_eq (Csv.Table.related_ofBytes ?_ rfl fun _ _ h => h)
    rw [unmarked_eq_of_decode?_unicode hlow hhigh htext, unmarked_encode hhead]
    exact Csv.alike_self _ _ _
  | letters rule hrule hread hintact hhead hcells hcells' =>
    have hsound := Encoding.isSound_of_mem_all (mem_all_of_ofLabel hlabel) rule hrule
    have halike := hintact.alike hsound (Encoding.Scheme.decode?_rule hrule hread)
    rw [← unmarked_encode hhead] at halike
    have hrelated := Csv.Table.related_ofBytes halike (Renders.nil rule) fun _ _ h => h.reads
    exact sameTexts_of_reads hrule hrelated hcells hcells'

/-- A file with a character beyond ASCII and a quoted comma. -/
theorem sameTexts_of_legible_euro :
    let o : CsvOptions := { encoding := ⟨"gb18030", .multibyte gb18030, ["gb18030"]⟩ }
    let bytes : List UInt8 := [0x80, 44, 98, 10, 55, 44, 34, 56, 44, 57, 34, 10]
    let text := "€,b\n7,\"8,9\"\n".toList
    Encoding.ofLabel (some "gb18030") = .ok o.encoding ∧ o.encoding.decode? bytes = some text ∧
      Legible o "sales" bytes text ∧
      SameTexts o o.inUnicode (o.table "sales" bytes)
        (o.inUnicode.table "sales" (Utf8.encode text)) := by
  intro o bytes text
  have hlabel : Encoding.ofLabel (some "gb18030") = .ok o.encoding := rfl
  have hbytes : Encoding.Unmarked bytes := by decide
  have hread : o.encoding.scheme.decode? bytes = some text := by
    simp [o, bytes, text, Encoding.Scheme.decode?, Multibyte.decode?, gb18030, single]
  have htext : o.encoding.decode? bytes = some text := by
    rwa [Encoding.decode?, Encoding.announced_of_unmarked hbytes]
  have hlegible : Legible o "sales" bytes text := by
    have hplain : o.encoding.scheme ≠ .escaped := by intro h; cases h
    have hunicode : Encoding.unicode.scheme ≠ .escaped := by intro h; cases h
    have hcells : ∀ cell ∈ (o.table "sales" bytes).cells, Encoding.Unmarked cell := by decide
    have hcells' : ∀ cell ∈ (o.inUnicode.table "sales" (Utf8.encode text)).cells,
        Encoding.Unmarked cell := by decide
    refine .letters gb18030 rfl hread ?_ (by decide) ?_ ?_
    · exact intact_of_leavesAscii (mem_all_of_ofLabel hlabel) rfl rfl (by decide)
        (fun _ _ => by decide) hread _
    · exact fun cell hcell => Encoding.clean_of_unmarked hplain (hcells cell hcell)
    · exact fun cell hcell => Encoding.clean_of_unmarked hunicode (hcells' cell hcell)
  exact ⟨hlabel, htext, hlegible, sameTexts_of_legible (some "gb18030") hlabel htext hlegible⟩

/-- In UTF-16 the bytes of a comma and of its character are not the same. -/
theorem not_sameTexts :
    ¬∀ (o : CsvOptions) (label : Option String) (path : String) (bytes : List UInt8)
      (text : List Char), Encoding.ofLabel label = .ok o.encoding →
      o.encoding.decode? bytes = some text →
      SameTexts o o.inUnicode (o.table path bytes)
        (o.inUnicode.table path (Utf8.encode text)) := by
  intro h
  let o : CsvOptions :=
    { encoding := ⟨"UTF-16LE", .utf16 .lowFirst, ["csunicode", "iso-10646-ucs-2", "ucs-2",
      "unicode", "unicodefeff", "utf-16", "utf-16le"]⟩ }
  have hsame := h o (some "utf-16le") "sales"
    [97, 0, 44, 0, 98, 0, 10, 0, 55, 0, 44, 0, 56, 0, 10, 0] "a,b\n7,8\n".toList rfl (by decide)
  exact absurd (congrArg Except.isOk hsame.header) (by decide)

end CsvOptions

end OneTable
