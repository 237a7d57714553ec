import OneTable.Yaml.Plain

/-!
# Writing scalars

A text is written plainly where that reads back as the text, and else in the first of
the other styles that can show it. A text with line feeds is written as a literal block
of lines. Single quotes can show every character that needs no escape, and double
quotes can show all of them.

* `OneTable.Yaml.Style`, `OneTable.Yaml.styleOf` – the styles and their choice;
* `OneTable.Yaml.written` – a text as it stands in a document.
-/

namespace OneTable.Yaml

/-- How a text is written. -/
inductive Style
  | plain
  | single
  | double
  | literal
deriving DecidableEq

/-! ### The choice of a style -/

/-- A space or a line break. -/
def isOuterBlank (c : Char) : Bool :=
  c == ' ' || isBreak c

/-- Some space or line break of one kind is followed by one of the other. -/
def hasNeighbours (p q : Char → Bool) (cs : List Char) : Bool :=
  (cs.zip cs.tail).any fun (c, d) => p c && q d

/-- A break with a space behind it. -/
def hasBreakSpace (cs : List Char) : Bool :=
  hasNeighbours isBreak (· == ' ') cs

/-- A space with a break behind it. -/
def hasSpaceBreak (cs : List Char) : Bool :=
  hasNeighbours (· == ' ') isBreak cs

/-- A character that needs an escape. -/
def hasSpecial (cs : List Char) : Bool :=
  !cs.all isPlainlyShown

/-- A beginning that means something else than a text. -/
def opensMarkup : List Char → Bool
  | '-' :: '-' :: '-' :: _ => true
  | '.' :: '.' :: '.' :: _ => true
  | c :: r =>
    "#,[]\x7b\x7d&*!|>'\"%@\x60".toList.contains c ||
      ((c == '?' || c == ':' || c == '-') && blankNext r)
  | [] => false

/-- Behind the first character: a colon before a blank, or a number sign behind one. -/
def holdsMarkup : List Char → Bool
  | c :: d :: r =>
    (d == ':' && blankNext r) || (d == '#' && blankNext [c]) || holdsMarkup (d :: r)
  | _ => false

/-- Single quotes can show a text. -/
def allowsSingle (cs : List Char) : Bool :=
  !hasBreakSpace cs && !hasSpaceBreak cs && !hasSpecial cs

/-- A text can stand without quotes. -/
def allowsPlain (cs : List Char) : Bool :=
  allowsSingle cs && !cs.any isBreak && !cs.head?.any isOuterBlank &&
    !cs.getLast?.any isOuterBlank && !opensMarkup cs && !holdsMarkup cs

/-- A block of lines can show a text. -/
def allowsLiteral (cs : List Char) : Bool :=
  !hasSpaceBreak cs && !hasSpecial cs && cs.getLast?.any (· != ' ')

/-- **The style of a text.** -/
def styleOf (cs : List Char) : Style :=
  if cs.contains '\n' then if allowsLiteral cs then .literal else .double
  else if !readsAsValue cs && allowsPlain cs then .plain
  else if allowsSingle cs then .single
  else .double

/-! ### The styles -/

/-- The spaces before a line. -/
def spaces (indent : Nat) : List Char :=
  List.replicate indent ' '

/-- Lines in single quotes: a quote is doubled, and a line break is followed by the
spaces of the indentation. -/
def singleBody (indent : Nat) : (behindBreak : Bool) → List Char → List Char
  | behindBreak, [] => if behindBreak then spaces indent else []
  | behindBreak, c :: cs =>
    if isBreak c then c :: singleBody indent true cs
    else
      (if behindBreak then spaces indent else []) ++
        (if c = '\'' then ['\'', '\''] else [c]) ++ singleBody indent false cs

/-- The letter of an escape of two characters. -/
def shortEscape? (c : Char) : Option Char :=
  match c.toNat with
  | 0x00 => some '0'
  | 0x07 => some 'a'
  | 0x08 => some 'b'
  | 0x09 => some 't'
  | 0x0A => some 'n'
  | 0x0B => some 'v'
  | 0x0C => some 'f'
  | 0x0D => some 'r'
  | 0x1B => some 'e'
  | 0x22 => some '"'
  | 0x5C => some '\\'
  | 0x85 => some 'N'
  | 0x2028 => some 'L'
  | 0x2029 => some 'P'
  | _ => none

/-- The last digits of a number in base sixteen. -/
def hexText : Nat → Nat → List Char
  | 0, _ => []
  | width + 1, n => hexText width (n / 16) ++ [(Nat.digitChar (n % 16)).toUpper]

/-- A character in double quotes. -/
def escaped (c : Char) : List Char :=
  match shortEscape? c with
  | some e => ['\\', e]
  | none =>
    if isPlainlyShown c then [c]
    else if c.toNat ≤ 0xFF then '\\' :: 'x' :: hexText 2 c.toNat
    else if c.toNat ≤ 0xFFFF then '\\' :: 'u' :: hexText 4 c.toNat
    else '\\' :: 'U' :: hexText 8 c.toNat

/-- What stands behind the bar of a literal block: the indentation when it cannot be
seen in the first line, and how the breaks at the end are to be read. -/
def literalHints (cs : List Char) : List Char :=
  let indentHint := if cs.head?.any isOuterBlank then ['2'] else []
  let chompHint :=
    match cs.reverse with
    | c :: r => if !isBreak c then ['-'] else if r.head?.all isBreak then ['+'] else []
    | [] => ['-']
  indentHint ++ chompHint

/-- The lines of a literal block. Only lines with text are indented. -/
def literalBody (indent : Nat) : (behindBreak : Bool) → List Char → List Char
  | behindBreak, [] => if behindBreak then [] else ['\n']
  | behindBreak, c :: cs =>
    if isBreak c then c :: literalBody indent true cs
    else (if behindBreak then spaces indent else []) ++ c :: literalBody indent false cs

/-- **A text as it stands in a document,** with the end of its line. Lines behind the
first one are indented. -/
def written (indent : Nat) (cs : List Char) : List Char :=
  match styleOf cs with
  | .plain => cs ++ ['\n']
  | .single => '\'' :: singleBody indent false cs ++ ['\'', '\n']
  | .double => '"' :: cs.flatMap escaped ++ ['"', '\n']
  | .literal => '|' :: literalHints cs ++ '\n' :: literalBody indent true cs

end OneTable.Yaml
