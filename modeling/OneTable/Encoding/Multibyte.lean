import OneTable.Encoding.Table.Big5
import OneTable.Encoding.Table.Gb18030
import OneTable.Encoding.Table.Gb18030Range
import OneTable.Encoding.Table.Jis0208
import OneTable.Encoding.Table.Jis0212
import OneTable.Encoding.Table.KsX1001

/-!
# Encodings with characters of several bytes

In most of these encodings the first byte of a character tells how many belong to it, and
the others give its row and its column in a table. The bytes of ASCII stand for themselves,
but in the second place a byte of ASCII may be part of a character. One encoding switches
between tables by escapes instead.

* `OneTable.Multibyte.decode?` – the text of bytes whose characters follow a rule;
* `OneTable.Multibyte.shiftJis`, `OneTable.Multibyte.eucJp`, `OneTable.Multibyte.gb18030`,
  `OneTable.Multibyte.big5`, `OneTable.Multibyte.eucKr` – the rules;
* `OneTable.Escaped.decode?` – the text of bytes with escapes.
-/

namespace OneTable.Multibyte

/-- A rule: the characters of a first byte and of those behind it, and how many of these
belong to them. -/
abbrev Rule := UInt8 → List UInt8 → Option (List Char × Nat)

/-- **The text of bytes whose characters follow a rule.** -/
def decode? (rule : Rule) : List UInt8 → Option (List Char)
  | [] => some []
  | b :: r =>
    match rule b r with
    | some (cs, count) => (decode? rule (r.drop count)).map (cs ++ ·)
    | none => none
termination_by bytes => bytes.length
decreasing_by rw [List.length_drop, List.length_cons]; omega

/-! ### Parts of the rules -/

/-- A character of one byte. -/
def single (c : Char) : Option (List Char × Nat) := some ([c], 0)

/-- A character of so many more bytes, if there is one. -/
def more (count : Nat) (c : Option Char) : Option (List Char × Nat) :=
  c.map fun c => ([c], count)

/-- A byte lies in a range. -/
def within (first last b : UInt8) : Bool := first ≤ b && b ≤ last

/-- The place of a byte in a range, or behind it. -/
def from? (first last b : UInt8) : Option Nat :=
  if within first last b then some (b.toNat - first.toNat) else none

/-- The column of a byte in one of two ranges, which follow each other. -/
def column? (first last nextFirst nextLast b : UInt8) : Option Nat :=
  match from? first last b with
  | some n => some n
  | none => (from? nextFirst nextLast b).map (· + (last.toNat - first.toNat + 1))

/-- A character in a table, by row and column. -/
def cell? (t : CharTable) (width : Nat) (row column : Option Nat) : Option Char :=
  match row, column with
  | some row, some column => t.char? (row * width + column)
  | _, _ => none

/-- A narrow character of the Japanese syllabary. -/
def narrowKana (place : Nat) : Char := Char.ofNat (0xFF61 + place)

/-! ### The rules -/

/-- The numbers that users may give characters to. -/
def userNumbers : Nat × Nat := (8836, 10715)

/-- A Japanese character of a number. -/
def japanese? (number : Nat) : Option Char :=
  if userNumbers.1 ≤ number ∧ number ≤ userNumbers.2 then
    some (Char.ofNat (0xE000 + (number - userNumbers.1)))
  else CharTable.jis0208.char? number

/-- **The rule of Shift_JIS.** -/
def shiftJis : Rule := fun b r =>
  if b ≤ 0x80 then single (Char.ofNat b.toNat)
  else
    match from? 0xA1 0xDF b with
    | some n => single (narrowKana n)
    | none =>
      match column? 0x81 0x9F 0xE0 0xFC b, r with
      | some row, c :: _ =>
        more 1 ((column? 0x40 0x7E 0x80 0xFC c).bind fun column => japanese? (row * 188 + column))
      | _, _ => none

/-- **The rule of EUC-JP.** -/
def eucJp : Rule := fun b r =>
  if b < 0x80 then single (Char.ofNat b.toNat)
  else if b = 0x8E then
    match r with
    | c :: _ => more 1 ((from? 0xA1 0xDF c).map narrowKana)
    | [] => none
  else if b = 0x8F then
    match r with
    | c :: d :: _ => more 2 (cell? .jis0212 94 (from? 0xA1 0xFE c) (from? 0xA1 0xFE d))
    | _ => none
  else
    match r with
    | c :: _ => more 1 (cell? .jis0208 94 (from? 0xA1 0xFE b) (from? 0xA1 0xFE c))
    | [] => none

/-- A character of four bytes. -/
def fourBytes? (a b c d : UInt8) : Option Char :=
  match from? 0x81 0xFE a, from? 0x30 0x39 b, from? 0x81 0xFE c, from? 0x30 0x39 d with
  | some a, some b, some c, some d => Gb18030.wide? (((a * 10 + b) * 126 + c) * 10 + d)
  | _, _, _, _ => none

/-- **The rule of GB 18030.** The sign of the euro has a byte of its own. -/
def gb18030 : Rule := fun b r =>
  if b < 0x80 then single (Char.ofNat b.toNat)
  else if b = 0x80 then single '€'
  else
    match r with
    | [] => none
    | c :: r =>
      if within 0x30 0x39 c then
        match r with
        | d :: e :: _ => more 3 (fourBytes? b c d e)
        | _ => none
      else
        more 1 (cell? .gb18030 190 (from? 0x81 0xFE b) (column? 0x40 0x7E 0x80 0xFE c))

/-- A letter with an accent that is a character of its own. -/
def accented? (number : Nat) : Option (List Char) :=
  match number with
  | 1133 => some ['\u00ca', '\u0304']
  | 1135 => some ['\u00ca', '\u030c']
  | 1164 => some ['\u00ea', '\u0304']
  | 1166 => some ['\u00ea', '\u030c']
  | _ => none

/-- **The rule of Big5.** -/
def big5 : Rule := fun b r =>
  if b < 0x80 then single (Char.ofNat b.toNat)
  else
    match r with
    | [] => none
    | c :: _ =>
      match from? 0x81 0xFE b, column? 0x40 0x7E 0xA1 0xFE c with
      | some row, some column =>
        let number := row * 157 + column
        match accented? number with
        | some cs => some (cs, 1)
        | none => more 1 (CharTable.big5.char? number)
      | _, _ => none

/-- **The rule of EUC-KR.** -/
def eucKr : Rule := fun b r =>
  if b < 0x80 then single (Char.ofNat b.toNat)
  else
    match r with
    | [] => none
    | c :: _ => more 1 (cell? .ksX1001 190 (from? 0x81 0xFE b) (from? 0x41 0xFE c))

end OneTable.Multibyte

/-! ### Escapes -/

namespace OneTable.Escaped

/-- What bytes stand for. -/
inductive Mode
  | ascii
  /-- ASCII with the signs of the yen and of the overline. -/
  | roman
  /-- The Japanese syllabary, in narrow characters. -/
  | kana
  /-- Two bytes for a Japanese character. -/
  | pairs
deriving DecidableEq

/-- The mode that an escape switches to. -/
def mode? : UInt8 → UInt8 → Option Mode
  | 0x28, 0x42 => some .ascii
  | 0x28, 0x4A => some .roman
  | 0x28, 0x49 => some .kana
  | 0x24, 0x40 => some .pairs
  | 0x24, 0x42 => some .pairs
  | _, _ => none

/-- The byte at the front of an escape. -/
def escape : UInt8 := 0x1B

/-- A byte of ASCII that does not switch between sets. -/
def isPlain (b : UInt8) : Bool := b < 0x80 && b != 0x0E && b != 0x0F

/-- The character of a byte in a mode of single bytes. -/
def char? (m : Mode) (b : UInt8) : Option Char :=
  match m with
  | .ascii => if isPlain b then some (Char.ofNat b.toNat) else none
  | .roman =>
    if b = 0x5C then some '\u00a5'
    else if b = 0x7E then some '\u203e'
    else if isPlain b then some (Char.ofNat b.toNat)
    else none
  | .kana => (Multibyte.from? 0x21 0x5F b).map Multibyte.narrowKana
  | .pairs => none

/-- The text of bytes in a mode. Between two escapes there has to be a character. -/
def decodeIn? : Mode → Bool → List UInt8 → Option (List Char)
  | _, _, [] => some []
  | m, switched, b :: r =>
    if b = escape then
      match r with
      | c :: d :: r =>
        if switched then none
        else
          match mode? c d with
          | some m => decodeIn? m true r
          | none => none
      | _ => none
    else if m = .pairs then
      match r with
      | c :: r =>
        match Multibyte.cell? .jis0208 94 (Multibyte.from? 0x21 0x7E b)
            (Multibyte.from? 0x21 0x7E c) with
        | some ch => (decodeIn? m false r).map (ch :: ·)
        | none => none
      | [] => none
    else
      match char? m b with
      | some ch => (decodeIn? m false r).map (ch :: ·)
      | none => none

/-- **The text of bytes with escapes.** It begins in ASCII. -/
def decode? (bytes : List UInt8) : Option (List Char) :=
  decodeIn? .ascii false bytes

end OneTable.Escaped
