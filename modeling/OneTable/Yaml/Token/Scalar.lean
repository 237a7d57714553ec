import OneTable.Yaml.Cursor
import OneTable.Yaml.Token.Basic

/-!
# Scanning scalars

A scalar is plain, in single quotes, in double quotes, or a block of lines below a bar
or an angle. In all but the bar's blocks lines are folded: a line break is a space, and
of several line breaks in a row the first is dropped.

* `OneTable.Yaml.scanPlain`, `OneTable.Yaml.scanQuoted`, `OneTable.Yaml.scanBlock` – the
  text of a scalar and the place behind it, when there is no fault.
-/

namespace OneTable.Yaml

/-! ### Plain scalars -/

/-- The end of a plain scalar: a colon before a blank and, between brackets, the
characters that separate nodes. -/
def endsPlain (flow : Bool) (c : Char) (r : List Char) : Bool :=
  (c == ':' && blankNext r) || (flow && ",[]\x7b\x7d".toList.contains c)

/-- Between brackets, a colon that is neither text nor the end of a key. -/
def strayColon (flow : Bool) (c : Char) (r : List Char) : Bool :=
  flow && c == ':' && r.head?.any (",?[]\x7b\x7d".toList.contains ·)

/-- The characters of a plain scalar up to a blank or to its end. -/
def plainWord (flow : Bool) : List Char → Option (List Char)
  | [] => some []
  | c :: r =>
    if isBreak c || isGap c then some []
    else if strayColon flow c r then none
    else if endsPlain flow c r then some []
    else (plainWord flow r).map (c :: ·)

/-- A scalar with the place behind it, and whether a line ended behind its text. -/
structure Scanned where
  text : List Char
  cursor : Cursor
  broken : Bool := false

/-- A plain scalar from the next word on. -/
def plainFrom (flow : Bool) (margin : Nat) : Nat → List Char → Gap → Cursor → Option Scanned
  | 0, text, gap, s => some ⟨text, s, gap.isBroken⟩
  | fuel + 1, text, gap, s =>
    if s.standsBetweenDocuments || s.rest.head? == some '#' then some ⟨text, s, gap.isBroken⟩
    else
      match plainWord flow s.rest with
      | none => none
      | some [] => some ⟨text, s, gap.isBroken⟩
      | some word =>
        let text := text ++ gap.folded ++ word
        let s := s.skip word.length
        if s.rest ≠ [] ∧ blankNext s.rest then
          match s.gap? margin {} with
          | none => none
          | some (gap, s) =>
            if !flow ∧ s.column < margin then some ⟨text, s, gap.isBroken⟩
            else plainFrom flow margin fuel text gap s
        else some ⟨text, s, false⟩

/-- **A plain scalar.** Outside brackets its lines have to reach the margin. -/
def scanPlain (flow : Bool) (margin : Nat) (s : Cursor) : Option Scanned :=
  plainFrom flow margin (s.rest.length + 1) [] {} s

/-! ### Quoted scalars -/

/-- The character of an escape of one letter. -/
def unescape? (c : Char) : Option Char :=
  match c with
  | '0' => some '\x00'
  | 'a' => some '\x07'
  | 'b' => some '\x08'
  | 't' => some '\t'
  | '\t' => some '\t'
  | 'n' => some '\n'
  | 'v' => some '\x0b'
  | 'f' => some '\x0c'
  | 'r' => some '\r'
  | 'e' => some '\x1b'
  | ' ' => some ' '
  | '"' => some '"'
  | '/' => some '/'
  | '\\' => some '\\'
  | 'N' => some '\u0085'
  | '_' => some '\u00a0'
  | 'L' => some '\u2028'
  | 'P' => some '\u2029'
  | _ => none

/-- The number of digits of an escape by number. -/
def escapeWidth? (c : Char) : Option Nat :=
  match c with
  | 'x' => some 2
  | 'u' => some 4
  | 'U' => some 8
  | _ => none

/-- The value of a digit of base sixteen. -/
def hexValue? (c : Char) : Option Nat :=
  if '0' ≤ c ∧ c ≤ '9' then some (c.toNat - '0'.toNat)
  else if 'a' ≤ c ∧ c ≤ 'f' then some (c.toNat - 'a'.toNat + 10)
  else if 'A' ≤ c ∧ c ≤ 'F' then some (c.toNat - 'A'.toNat + 10)
  else none

/-- The value of digits of base sixteen. -/
def hexDigitsValue? (cs : List Char) : Option Nat :=
  cs.foldl (fun n? c => n?.bind fun n => (hexValue? c).map (16 * n + ·)) (some 0)

/-- The character of an escape and the number of characters behind the backslash. -/
def escapeAt? : List Char → Option (Char × Nat)
  | [] => none
  | c :: r =>
    match unescape? c with
    | some d => some (d, 1)
    | none =>
      match escapeWidth? c with
      | none => none
      | some width =>
        let digits := r.take width
        match hexDigitsValue? digits with
        | some n =>
          if digits.length = width ∧ (n < 0xD800 ∨ 0xE000 ≤ n) ∧ n ≤ 0x10FFFF then
            some (Char.ofNat n, width + 1)
          else none
        | none => none

/-- What ended a run of characters inside quotes. -/
inductive RunEnd
  | blank
  | quote
  /-- A line break behind a backslash. -/
  | joined
deriving DecidableEq

/-- The characters inside quotes up to a blank, to the closing quote or to the end of the
text, last first. -/
def quotedRun (single : Bool) :
    Nat → List Char → Cursor → Option (List Char × RunEnd × Cursor)
  | 0, acc, s => some (acc, .blank, s)
  | fuel + 1, acc, s =>
    match s.rest with
    | [] => some (acc, .blank, s)
    | c :: r =>
      if isBreak c || isGap c then some (acc, .blank, s)
      else if single then
        if c ≠ '\'' then quotedRun single fuel (c :: acc) (s.skip 1)
        else if r.head? = some '\'' then quotedRun single fuel ('\'' :: acc) (s.skip 2)
        else some (acc, .quote, s)
      else if c = '"' then some (acc, .quote, s)
      else if c ≠ '\\' then quotedRun single fuel (c :: acc) (s.skip 1)
      else if r ≠ [] ∧ lineEnds r then some (acc, .joined, (s.skip 1).skipBreak)
      else
        match escapeAt? r with
        | none => none
        | some (d, count) => quotedRun single fuel (d :: acc) (s.skip (count + 1))

/-- A quoted scalar from behind a gap on. -/
def quotedFrom (single : Bool) : Nat → List Char → Cursor → Option Scanned
  | 0, _, _ => none
  | fuel + 1, text, s =>
    if s.standsBetweenDocuments || s.rest.isEmpty then none
    else
      match quotedRun single (s.rest.length + 1) [] s with
      | none => none
      | some (run, reason, s) =>
        let text := text ++ run.reverse
        let quote := if single then '\'' else '"'
        if reason = .quote ∨ s.rest.head? = some quote then some ⟨text, s.skip 1, false⟩
        else
          match s.gap? 0 { joined := reason == .joined } with
          | none => none
          | some (gap, s) => quotedFrom single fuel (text ++ gap.folded) s

/-- **A quoted scalar.** -/
def scanQuoted (single : Bool) (s : Cursor) : Option Scanned :=
  quotedFrom single (s.rest.length + 1) [] (s.skip 1)

/-! ### Blocks of lines -/

/-- What becomes of the line breaks at the end of a block. -/
inductive Chomping
  /-- All are dropped. -/
  | strip
  /-- One stays. -/
  | clip
  /-- All stay. -/
  | keep
deriving DecidableEq

/-- The sign for an end of a block. -/
def chomping? (c : Char) : Option Chomping :=
  if c = '+' then some .keep else if c = '-' then some .strip else none

/-- The indentation a block asks for; zero is none. -/
def indentation? (c : Char) : Option Nat :=
  if '1' ≤ c ∧ c ≤ '9' then some (c.toNat - '0'.toNat) else none

/-- The hints behind the sign of a block, in either order, and how many there are. A zero
is a fault. -/
def blockHints (cs : List Char) : Option (Chomping × Nat × Nat) :=
  match cs with
  | [] => some (.clip, 0, 0)
  | c :: r =>
    match chomping? c, indentation? c with
    | some chomp, _ =>
      match r with
      | d :: _ =>
        if d = '0' then none
        else
          match indentation? d with
          | some n => some (chomp, n, 2)
          | none => some (chomp, 0, 1)
      | [] => some (chomp, 0, 1)
    | none, some n =>
      match r.head?.bind chomping? with
      | some chomp => some (chomp, n, 2)
      | none => some (.clip, n, 1)
    | none, none => if c = '0' then none else some (.clip, 0, 0)

/-- The empty lines before a line of a block: their breaks, the place of the line's text,
and the widest indentation. While the indentation is not known all spaces count to it. -/
def blockBreaks (indent : Nat) : Nat → Nat → List Char → Cursor → Option (Nat × List Char × Cursor)
  | 0, widest, breaks, s => some (widest, breaks, s)
  | fuel + 1, widest, breaks, s =>
    let room := if indent = 0 then s.rest.length else indent - s.column
    let s := s.skip ((s.rest.take room).takeWhile (· == ' ')).length
    let widest := max widest s.column
    if (indent = 0 ∨ s.column < indent) ∧ s.rest.head? = some '\t' then none
    else
      match s.readBreak? with
      | some (b, s) => blockBreaks indent fuel widest (breaks ++ [b]) s
      | none => some (widest, breaks, s)

/-- The lines of a block. `breakBefore` is the break that ended the line before, and
`blanks` says whether that line began with a blank. -/
def blockLines (literal : Bool) (indent : Nat) :
    Nat → List Char → List Char → List Char → Bool → Cursor →
      Option (List Char × List Char × List Char × Cursor)
  | 0, text, breakBefore, breaks, _, s => some (text, breakBefore, breaks, s)
  | fuel + 1, text, breakBefore, breaks, blank, s =>
    if s.column = indent ∧ s.rest ≠ [] then
      let blankNow := s.rest.head?.any isGap
      let gap :=
        if !literal && breakBefore == ['\n'] && !blank && !blankNow then
          if breaks = [] then [' '] else breaks
        else breakBefore ++ breaks
      let line := s.rest.takeWhile fun c => !isBreak c
      let text := text ++ gap ++ line
      let s := s.skip line.length
      let (breakBefore, s) :=
        match s.readBreak? with
        | some (b, s) => ([b], s)
        | none => ([], s)
      match blockBreaks indent (s.rest.length + 1) 0 [] s with
      | none => none
      | some (_, breaks, s) => blockLines literal indent fuel text breakBefore breaks blankNow s
    else some (text, breakBefore, breaks, s)

/-- **A block of lines.** Its indentation is told by its sign or by its first line of
text; it is at least the margin. -/
def scanBlock (literal : Bool) (margin : Nat) (s : Cursor) : Option Scanned :=
  let s := s.skip 1
  match blockHints s.rest with
  | none => none
  | some (chomp, hint, count) =>
    let s := ((s.skip count).skipWhile isGap).skipComment
    if !lineEnds s.rest then none
    else
      let s := s.skipBreak
      let told := if hint = 0 then 0 else margin - 1 + hint
      match blockBreaks told (s.rest.length + 1) 0 [] s with
      | none => none
      | some (widest, breaks, s) =>
        let indent := if told = 0 then max (max widest margin) 1 else told
        match blockLines literal indent (s.rest.length + 1) [] [] breaks false s with
        | none => none
        | some (text, last, breaks, s) =>
          let ending :=
            match chomp with
            | .strip => []
            | .clip => last
            | .keep => last ++ breaks
          some ⟨text ++ ending, s, false⟩

end OneTable.Yaml
