/-!
# Characters of documents

The classes of characters that the notation of documents is described by.

* `OneTable.Yaml.isBreak`, `OneTable.Yaml.isGap`, `OneTable.Yaml.isWord` – line breaks,
  blanks within a line, and the characters of names;
* `OneTable.Yaml.isAllowed` – the characters a document may contain;
* `OneTable.Yaml.isPlainlyShown` – the characters that are written without an escape.
-/

namespace OneTable.Yaml

/-- The end of a line: a line feed, a carriage return, or one of the three Unicode
characters of that meaning. -/
def isBreak (c : Char) : Bool :=
  c == '\n' || c == '\r' || c == '\u0085' || c == '\u2028' || c == '\u2029'

/-- A space or a tab. -/
def isGap (c : Char) : Bool :=
  c == ' ' || c == '\t'

/-- A character of an anchor or of a directive. -/
def isWord (c : Char) : Bool :=
  ('0' ≤ c && c ≤ '9') || ('A' ≤ c && c ≤ 'Z') || ('a' ≤ c && c ≤ 'z') || c == '_' || c == '-'

/-- **A character that a document may contain:** no control character but the tab and
those that end lines, and nothing that is no character. -/
def isAllowed (c : Char) : Bool :=
  let n := c.toNat
  n == 0x09 || n == 0x0A || n == 0x0D || (0x20 ≤ n && n ≤ 0x7E) || n == 0x85 ||
    (0xA0 ≤ n && n ≤ 0xD7FF) || (0xE000 ≤ n && n ≤ 0xFFFD) || 0x10000 ≤ n

/-- **A character that is written without an escape.** A tab is not among them, and the
line feed is the only control character that is. -/
def isPlainlyShown (c : Char) : Bool :=
  let n := c.toNat
  n == 0x0A || (0x20 ≤ n && n ≤ 0x7E) || (0xA0 ≤ n && n != 0xFEFF && n != 0xFFFE && n != 0xFFFF)

/-- The end of the text, a line break, or one of the characters of a class. -/
def endsOr (p : Char → Bool) : List Char → Bool
  | [] => true
  | c :: _ => isBreak c || p c

/-- What follows is blank: the end of the text, a line break, a space or a tab. -/
def blankNext (cs : List Char) : Bool :=
  endsOr isGap cs

/-- The line ends here. -/
def lineEnds (cs : List Char) : Bool :=
  endsOr (fun _ => false) cs

end OneTable.Yaml
