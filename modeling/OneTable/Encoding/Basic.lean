import OneTable.Encoding.Multibyte
import OneTable.Encoding.Page
import OneTable.Encoding.Utf8
import OneTable.Encoding.Utf16
import OneTable.Text.Blank

/-!
# Encodings

An encoding gives bytes a text. A user names it by a label, and every encoding has
several. A byte order mark at the beginning of the bytes is stronger than the label: it
says which form of Unicode follows, and it is no part of the text.

* `OneTable.Encoding` – an encoding, with its name, its scheme and its labels;
* `OneTable.Encoding.ofLabel` – the encoding of a label;
* `OneTable.Encoding.decode?` – the text of bytes.
-/

namespace OneTable

/-- How bytes become characters. -/
inductive Encoding.Scheme
  | utf8
  | utf16 (order : Utf16.ByteOrder)
  | page (page : Page)
  /-- Bytes beyond ASCII are characters of a private range. -/
  | privateUse
  | multibyte (rule : Multibyte.Rule)
  /-- Escapes switch between tables. -/
  | escaped
  /-- No byte at all can be read. -/
  | unreadable

/-- An encoding. -/
structure Encoding where
  name : String
  scheme : Encoding.Scheme
  labels : List String

namespace Encoding

/-! ### Labels -/

/-- The encoding of files about which nothing is said. -/
def unicode : Encoding :=
  ⟨"UTF-8", .utf8,
      ["unicode-1-1-utf-8", "unicode11utf8", "unicode20utf8", "utf-8", "utf8", "x-unicode20utf8"]⟩

/-- Every encoding. -/
def all : List Encoding :=
  [unicode,
    ⟨"IBM866", .page .ibm866, ["866", "cp866", "csibm866", "ibm866"]⟩,
    ⟨"ISO-8859-2", .page .iso2,
      ["csisolatin2", "iso-8859-2", "iso-ir-101", "iso8859-2", "iso88592", "iso_8859-2",
      "iso_8859-2:1987", "l2", "latin2"]⟩,
    ⟨"ISO-8859-3", .page .iso3,
      ["csisolatin3", "iso-8859-3", "iso-ir-109", "iso8859-3", "iso88593", "iso_8859-3",
      "iso_8859-3:1988", "l3", "latin3"]⟩,
    ⟨"ISO-8859-4", .page .iso4,
      ["csisolatin4", "iso-8859-4", "iso-ir-110", "iso8859-4", "iso88594", "iso_8859-4",
      "iso_8859-4:1988", "l4", "latin4"]⟩,
    ⟨"ISO-8859-5", .page .iso5,
      ["csisolatincyrillic", "cyrillic", "iso-8859-5", "iso-ir-144", "iso8859-5", "iso88595",
      "iso_8859-5", "iso_8859-5:1988"]⟩,
    ⟨"ISO-8859-6", .page .iso6,
      ["arabic", "asmo-708", "csiso88596e", "csiso88596i", "csisolatinarabic", "ecma-114",
      "iso-8859-6", "iso-8859-6-e", "iso-8859-6-i", "iso-ir-127", "iso8859-6", "iso88596",
      "iso_8859-6", "iso_8859-6:1987"]⟩,
    ⟨"ISO-8859-7", .page .iso7,
      ["csisolatingreek", "ecma-118", "elot_928", "greek", "greek8", "iso-8859-7", "iso-ir-126",
      "iso8859-7", "iso88597", "iso_8859-7", "iso_8859-7:1987", "sun_eu_greek"]⟩,
    ⟨"ISO-8859-8", .page .iso8,
      ["csiso88598e", "csisolatinhebrew", "hebrew", "iso-8859-8", "iso-8859-8-e", "iso-ir-138",
      "iso8859-8", "iso88598", "iso_8859-8", "iso_8859-8:1988", "visual"]⟩,
    ⟨"ISO-8859-8-I", .page .iso8, ["csiso88598i", "iso-8859-8-i", "logical"]⟩,
    ⟨"ISO-8859-10", .page .iso10,
      ["csisolatin6", "iso-8859-10", "iso-ir-157", "iso8859-10", "iso885910", "l6", "latin6"]⟩,
    ⟨"ISO-8859-13", .page .iso13, ["iso-8859-13", "iso8859-13", "iso885913"]⟩,
    ⟨"ISO-8859-14", .page .iso14, ["iso-8859-14", "iso8859-14", "iso885914"]⟩,
    ⟨"ISO-8859-15", .page .iso15,
      ["csisolatin9", "iso-8859-15", "iso8859-15", "iso885915", "iso_8859-15", "l9"]⟩,
    ⟨"ISO-8859-16", .page .iso16, ["iso-8859-16"]⟩,
    ⟨"KOI8-R", .page .koi8R, ["cskoi8r", "koi", "koi8", "koi8-r", "koi8_r"]⟩,
    ⟨"KOI8-U", .page .koi8U, ["koi8-ru", "koi8-u"]⟩,
    ⟨"macintosh", .page .macRoman, ["csmacintosh", "mac", "macintosh", "x-mac-roman"]⟩,
    ⟨"windows-874", .page .windows874,
      ["dos-874", "iso-8859-11", "iso8859-11", "iso885911", "tis-620", "windows-874"]⟩,
    ⟨"windows-1250", .page .windows1250, ["cp1250", "windows-1250", "x-cp1250"]⟩,
    ⟨"windows-1251", .page .windows1251, ["cp1251", "windows-1251", "x-cp1251"]⟩,
    ⟨"windows-1252", .page .windows1252,
      ["ansi_x3.4-1968", "ascii", "cp1252", "cp819", "csisolatin1", "ibm819", "iso-8859-1",
      "iso-ir-100", "iso8859-1", "iso88591", "iso_8859-1", "iso_8859-1:1987", "l1", "latin1",
      "us-ascii", "windows-1252", "x-cp1252"]⟩,
    ⟨"windows-1253", .page .windows1253, ["cp1253", "windows-1253", "x-cp1253"]⟩,
    ⟨"windows-1254", .page .windows1254,
      ["cp1254", "csisolatin5", "iso-8859-9", "iso-ir-148", "iso8859-9", "iso88599", "iso_8859-9",
      "iso_8859-9:1989", "l5", "latin5", "windows-1254", "x-cp1254"]⟩,
    ⟨"windows-1255", .page .windows1255, ["cp1255", "windows-1255", "x-cp1255"]⟩,
    ⟨"windows-1256", .page .windows1256, ["cp1256", "windows-1256", "x-cp1256"]⟩,
    ⟨"windows-1257", .page .windows1257, ["cp1257", "windows-1257", "x-cp1257"]⟩,
    ⟨"windows-1258", .page .windows1258, ["cp1258", "windows-1258", "x-cp1258"]⟩,
    ⟨"x-mac-cyrillic", .page .macCyrillic, ["x-mac-cyrillic", "x-mac-ukrainian"]⟩,
    ⟨"GBK", .multibyte Multibyte.gb18030,
      ["chinese", "csgb2312", "csiso58gb231280", "gb2312", "gb_2312", "gb_2312-80", "gbk",
      "iso-ir-58", "x-gbk"]⟩,
    ⟨"gb18030", .multibyte Multibyte.gb18030, ["gb18030"]⟩,
    ⟨"Big5", .multibyte Multibyte.big5, ["big5", "big5-hkscs", "cn-big5", "csbig5", "x-x-big5"]⟩,
    ⟨"EUC-JP", .multibyte Multibyte.eucJp, ["cseucpkdfmtjapanese", "euc-jp", "x-euc-jp"]⟩,
    ⟨"ISO-2022-JP", .escaped, ["csiso2022jp", "iso-2022-jp"]⟩,
    ⟨"Shift_JIS", .multibyte Multibyte.shiftJis,
      ["csshiftjis", "ms932", "ms_kanji", "shift-jis", "shift_jis", "sjis", "windows-31j",
      "x-sjis"]⟩,
    ⟨"EUC-KR", .multibyte Multibyte.eucKr,
      ["cseuckr", "csksc56011987", "euc-kr", "iso-ir-149", "korean", "ks_c_5601-1987",
      "ks_c_5601-1989", "ksc5601", "ksc_5601", "windows-949"]⟩,
    ⟨"replacement", .unreadable,
      ["csiso2022kr", "hz-gb-2312", "iso-2022-cn", "iso-2022-cn-ext", "iso-2022-kr",
      "replacement"]⟩,
    ⟨"UTF-16BE", .utf16 .highFirst, ["unicodefffe", "utf-16be"]⟩,
    ⟨"UTF-16LE", .utf16 .lowFirst,
      ["csunicode", "iso-10646-ucs-2", "ucs-2", "unicode", "unicodefeff", "utf-16", "utf-16le"]⟩,
    ⟨"x-user-defined", .privateUse, ["x-user-defined"]⟩]

/-- **The encoding of a label,** without regard to case and to blanks around it. -/
def ofLabel? (label : String) : Option Encoding :=
  let word := String.ofList (Text.lower (Text.trim label.toList))
  all.find? fun e => e.labels.contains word

/-- What is said about a label of no encoding. -/
def unknownMessage (label : String) : String :=
  "Unknown encoding '" ++ label ++ "'"

/-- **The encoding a user asks for;** without a label it is UTF-8. -/
def ofLabel : Option String → Except String Encoding
  | none => .ok unicode
  | some label =>
    match ofLabel? label with
    | some e => .ok e
    | none => .error (unknownMessage label)

/-! ### Texts -/

/-- The character of a byte in a private range. -/
def privateChar (b : UInt8) : Char :=
  if b < 0x80 then Char.ofNat b.toNat else Char.ofNat (0xF780 + (b.toNat - 0x80))

/-- The text of bytes under a scheme. -/
def Scheme.decode? : Scheme → List UInt8 → Option (List Char)
  | .utf8, bytes => Utf8.decode? bytes
  | .utf16 order, bytes => Utf16.decode? order bytes
  | .page p, bytes => bytes.mapM p.char?
  | .privateUse, bytes => some (bytes.map privateChar)
  | .multibyte rule, bytes => Multibyte.decode? rule bytes
  | .escaped, bytes => Escaped.decode? bytes
  | .unreadable, bytes => if bytes = [] then some [] else none

/-- The scheme that the bytes themselves announce, with the bytes behind the mark. -/
def announced (scheme : Scheme) : List UInt8 → Scheme × List UInt8
  | 0xEF :: 0xBB :: 0xBF :: r => (.utf8, r)
  | 0xFF :: 0xFE :: r => (.utf16 .lowFirst, r)
  | 0xFE :: 0xFF :: r => (.utf16 .highFirst, r)
  | bytes => (scheme, bytes)

/-- **The text of bytes.** -/
def decode? (e : Encoding) (bytes : List UInt8) : Option (List Char) :=
  let (scheme, rest) := announced e.scheme bytes
  scheme.decode? rest

/-- What is said about bytes that have no text. -/
def undecodableMessage (e : Encoding) : String :=
  "Failed to decode text with encoding " ++ e.name

/-- The text of bytes, or what is said when there is none. -/
def decode (e : Encoding) (bytes : List UInt8) : Except String String :=
  match e.decode? bytes with
  | some cs => .ok (String.ofList cs)
  | none => .error e.undecodableMessage

end Encoding

end OneTable
