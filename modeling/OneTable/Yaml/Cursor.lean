import OneTable.Yaml.Character

/-!
# Places in a document

Whether a text may be a key, and to which block it belongs, depends on where it stands.
A cursor is a place in a document: its line, its column, the number of characters
before it, and the text that follows.

* `OneTable.Yaml.Cursor` – the place, with `OneTable.Yaml.Cursor.skip` and
  `OneTable.Yaml.Cursor.readBreak?`;
* `OneTable.Yaml.Gap`, `OneTable.Yaml.Cursor.gap?` – blanks and line breaks between two
  words, and what they are read as.
-/

namespace OneTable.Yaml

/-- A place in a document. -/
structure Cursor where
  /-- What follows. -/
  rest : List Char
  /-- How many characters precede. -/
  index : Nat := 0
  line : Nat := 0
  column : Nat := 0

namespace Cursor

/-- The place behind some characters of the line. -/
def skip (s : Cursor) (count : Nat) : Cursor :=
  { s with rest := s.rest.drop count, index := s.index + count, column := s.column + count }

/-- The place behind the characters of a class. -/
def skipWhile (s : Cursor) (p : Char → Bool) : Cursor :=
  s.skip (s.rest.takeWhile p).length

/-- The characters of a class that follow, and the place behind them. -/
def take (s : Cursor) (p : Char → Bool) : List Char × Cursor :=
  (s.rest.takeWhile p, s.skipWhile p)

/-- The place at the beginning of the next line, behind a break of so many characters. -/
def nextLine (s : Cursor) (count : Nat) : Cursor :=
  ⟨s.rest.drop count, s.index + count, s.line + 1, 0⟩

/-- **The line break that follows,** as it is read: every break is a line feed but the
separators of lines and of paragraphs. -/
def readBreak? (s : Cursor) : Option (Char × Cursor) :=
  match s.rest with
  | '\r' :: '\n' :: _ => some ('\n', s.nextLine 2)
  | c :: _ =>
    if c = '\u2028' ∨ c = '\u2029' then some (c, s.nextLine 1)
    else if isBreak c then some ('\n', s.nextLine 1)
    else none
  | [] => none

/-- The place behind the line break that follows, if one does. -/
def skipBreak (s : Cursor) : Cursor :=
  (s.readBreak?.map Prod.snd).getD s

/-- The place at the end of the line. -/
def skipLine (s : Cursor) : Cursor :=
  s.skipWhile fun c => !isBreak c

/-- The place behind a comment, if one follows. -/
def skipComment (s : Cursor) : Cursor :=
  if s.rest.head? = some '#' then s.skipLine else s

/-- A mark between two documents: three dashes or three points at the front of a line. -/
def standsAtMark (s : Cursor) (c : Char) : Bool :=
  s.column == 0 && s.rest.take 3 == [c, c, c] && blankNext (s.rest.drop 3)

/-- One of the two marks between documents. -/
def standsBetweenDocuments (s : Cursor) : Bool :=
  s.standsAtMark '-' || s.standsAtMark '.'

end Cursor

/-! ### Gaps -/

/-- What stands between two words: blanks and line breaks. -/
structure Gap where
  /-- The blanks before the first break. -/
  blanks : List Char := []
  /-- The breaks, as they are read. -/
  breaks : List Char := []
  /-- A break before them was taken back. -/
  joined : Bool := false

namespace Gap

/-- A new line has begun. -/
def isBroken (g : Gap) : Bool :=
  g.joined || g.breaks != []

/-- **What a gap is read as.** One line feed is a space, of several the first is
dropped, and blanks around breaks are nothing. -/
def folded (g : Gap) : List Char :=
  if g.joined then g.breaks
  else
    match g.breaks with
    | [] => g.blanks
    | ['\n'] => [' ']
    | '\n' :: more => more
    | breaks => breaks

end Gap

/-- The gap that follows; a tab before a column that text has to reach is a fault. -/
def Cursor.gapFrom? (margin : Nat) : Nat → Gap → Cursor → Option (Gap × Cursor)
  | 0, g, s => some (g, s)
  | fuel + 1, g, s =>
    match s.rest with
    | [] => some (g, s)
    | c :: _ =>
      if isGap c then
        if g.isBroken then
          if c = '\t' ∧ s.column < margin then none else gapFrom? margin fuel g (s.skip 1)
        else gapFrom? margin fuel { g with blanks := g.blanks ++ [c] } (s.skip 1)
      else
        match s.readBreak? with
        | some (b, s) => gapFrom? margin fuel { g with breaks := g.breaks ++ [b] } s
        | none => some (g, s)

/-- **The gap that follows.** -/
def Cursor.gap? (margin : Nat) (g : Gap) (s : Cursor) : Option (Gap × Cursor) :=
  s.gapFrom? margin s.rest.length g

end OneTable.Yaml
