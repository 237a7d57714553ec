import OneTable.Yaml.Token.Property

/-!
# Cutting a document into tokens

The cut goes from the left to the right, and two things are decided late. A line that is
indented less than a block ends it, so the indentations of the open blocks are kept in a
stack. And whether a node is a key is known only when a colon follows on the same line,
so for every pair of brackets the last node that may be a key is remembered, and the
token of a key is put in front of it afterwards.

A text with a fault still has the tokens that nothing behind them can change.

* `OneTable.Yaml.Scanner` – what is known in the middle of a text;
* `OneTable.Yaml.Scanner.fetch` – the next token;
* `OneTable.Yaml.Tokens.ofText` – the tokens of a text.
-/

namespace OneTable.Yaml

/-- A node that may be a key. -/
structure PossibleKey where
  /-- How many tokens precede it. -/
  number : Nat
  /-- Where it begins. -/
  index : Nat
  line : Nat
  column : Nat
  /-- It stands where a block has its keys, so it has to be one. -/
  required : Bool

/-- What is known in the middle of a text. -/
structure Scanner where
  cursor : Cursor
  /-- The column of the innermost block; the text itself has the column `-1`. -/
  indent : Int := -1
  /-- The columns of the blocks around it. -/
  indents : List Int := []
  /-- A key may begin here. -/
  keyAllowed : Bool := true
  /-- The possible key within the innermost brackets. -/
  possible : Option PossibleKey := none
  /-- The possible keys of the brackets around, the innermost first. -/
  outer : List (Option PossibleKey) := []
  /-- The tokens so far, last first. -/
  tokens : List Token := []
  count : Nat := 0

namespace Scanner

/-- Brackets are open. -/
def inFlow (s : Scanner) : Bool := !s.outer.isEmpty

/-- Adds a token. -/
def push (s : Scanner) (t : Token) : Scanner :=
  { s with tokens := t :: s.tokens, count := s.count + 1 }

/-- Puts a token in front of the one of a number. -/
def insert (s : Scanner) (number : Nat) (t : Token) : Scanner :=
  { s with tokens := s.tokens.insertIdx (s.count - number) t, count := s.count + 1 }

/-- The same scanner at another place. -/
def goTo (s : Scanner) (c : Cursor) : Scanner := { s with cursor := c }

/-- Whether a key may begin next. -/
def allow (s : Scanner) (allowed : Bool) : Scanner := { s with keyAllowed := allowed }

/-! ### Possible keys -/

/-- **Forgets a possible key that is too far away:** a key has its colon on the same line
and within 1024 characters. A required key cannot be forgotten. -/
def dropStale (c : Cursor) : Option PossibleKey → Option (Option PossibleKey)
  | none => some none
  | some k =>
    if k.line < c.line ∨ k.index + 1024 < c.index then
      if k.required then none else some none
    else some (some k)

/-- Forgets all possible keys that are too far away. -/
def dropAllStale (s : Scanner) : Option Scanner :=
  match dropStale s.cursor s.possible, s.outer.mapM (dropStale s.cursor) with
  | some possible, some outer => some { s with possible := possible, outer := outer }
  | _, _ => none

/-- Forgets the possible key within the innermost brackets. -/
def forget (s : Scanner) : Option Scanner :=
  if s.possible.any PossibleKey.required then none else some { s with possible := none }

/-- Remembers the node that begins here as a possible key. -/
def remember (s : Scanner) : Option Scanner :=
  if s.keyAllowed then
    let required := !s.inFlow && s.indent == (s.cursor.column : Int)
    s.forget.map fun s =>
      { s with
        possible := some ⟨s.count, s.cursor.index, s.cursor.line, s.cursor.column, required⟩ }
  else some s

/-! ### Blocks -/

/-- Opens a block at a column, unless one that is indented as far is open. -/
def openBlock (s : Scanner) (column : Nat) (number : Nat) (t : Token) : Scanner :=
  if !s.inFlow ∧ s.indent < column then
    { s with indent := column, indents := s.indent :: s.indents }.insert number t
  else s

/-- Ends the blocks that are indented further than a column. -/
def closeBlocks (column : Int) : List Int → Scanner → Scanner
  | [], s => s
  | i :: is, s =>
    if column < s.indent then
      closeBlocks column is ({ s with indent := i, indents := is }.push .blockEnd)
    else s

/-- Ends the blocks that a line indented to a column does not belong to. -/
def unindent (s : Scanner) (column : Int) : Scanner :=
  if s.inFlow then s else closeBlocks column s.indents s

/-! ### Tokens -/

/-- The place of the next token: behind blanks, comments and line breaks. A tab may not
stand where a key may begin. -/
def skipBlank : Nat → Scanner → Scanner
  | 0, s => s
  | fuel + 1, s =>
    let c := s.cursor
    let c := if c.index = 0 ∧ c.rest.head? = some '\ufeff' then c.skip 1 else c
    let tabs := s.inFlow || !s.keyAllowed
    let c := (c.skipWhile fun d => d == ' ' || (tabs && d == '\t')).skipComment
    match c.readBreak? with
    | some (_, c) =>
      skipBlank fuel (if s.inFlow then s.goTo c else (s.goTo c).allow true)
    | none => s.goTo c

/-- The token of a single character, which stands here. -/
def sign (s : Scanner) (t : Token) : Scanner :=
  (s.goTo (s.cursor.skip 1)).push t

/-- The end of the text. -/
def fetchFinish (s : Scanner) : Option Scanner :=
  (s.unindent (-1)).forget.map fun s => (s.allow false).push .finish

/-- A mark between documents. -/
def fetchDocumentMark (s : Scanner) (t : Token) : Option Scanner :=
  (s.unindent (-1)).forget.map fun s => ((s.goTo (s.cursor.skip 3)).allow false).push t

/-- A directive. -/
def fetchDirective (s : Scanner) : Option Scanner :=
  match (s.unindent (-1)).forget with
  | none => none
  | some s => (scanDirective s.cursor).map fun (t, c) => ((s.goTo c).allow false).push t

/-- An opening bracket. -/
def fetchOpening (s : Scanner) (t : Token) : Option Scanner :=
  s.remember.map fun s =>
    ({ s with outer := s.possible :: s.outer, possible := none }.allow true).sign t

/-- A closing bracket. -/
def fetchClosing (s : Scanner) (t : Token) : Option Scanner :=
  s.forget.map fun s =>
    let s :=
      match s.outer with
      | [] => s
      | k :: ks => { s with possible := k, outer := ks }
    (s.allow false).sign t

/-- A comma. -/
def fetchComma (s : Scanner) : Option Scanner :=
  s.forget.map fun s => (s.allow true).sign .comma

/-- The dash of an entry. Whether it may stand between brackets is not decided here. -/
def fetchDash (s : Scanner) : Option Scanner :=
  if !s.inFlow ∧ !s.keyAllowed then none
  else
    (s.openBlock s.cursor.column s.count .blockList).forget.map fun s =>
      (s.allow true).sign .dash

/-- The sign of a key. -/
def fetchKey (s : Scanner) : Option Scanner :=
  if !s.inFlow ∧ !s.keyAllowed then none
  else
    (s.openBlock s.cursor.column s.count .blockMapping).forget.map fun s =>
      (s.allow (!s.inFlow)).sign .key

/-- **The sign of a value.** A possible key before it is a key from now on. -/
def fetchValue (s : Scanner) : Option Scanner :=
  match s.possible with
  | some k =>
    let s := (s.insert k.number .key).openBlock k.column k.number .blockMapping
    some (({ s with possible := none }.allow false).sign .value)
  | none =>
    if !s.inFlow ∧ !s.keyAllowed then none
    else
      let s := s.openBlock s.cursor.column s.count .blockMapping
      some ((s.allow (!s.inFlow)).sign .value)

/-- A node of one token, which may be a key. -/
def fetchNode (s : Scanner) (scan : Cursor → Option (Token × Cursor)) : Option Scanner :=
  match s.remember with
  | none => none
  | some s => (scan s.cursor).map fun (t, c) => ((s.goTo c).allow false).push t

/-- The column that the lines of a node have to reach. -/
def margin (s : Scanner) : Nat := (s.indent + 1).toNat

/-- A block of lines. -/
def fetchBlock (s : Scanner) (literal : Bool) : Option Scanner :=
  match s.forget with
  | none => none
  | some s =>
    (scanBlock literal s.margin s.cursor).map fun r =>
      ((s.goTo r.cursor).allow true).push (.scalar (if literal then .literal else .folded) r.text)

/-- A quoted scalar. -/
def fetchQuoted (s : Scanner) (single : Bool) : Option Scanner :=
  s.fetchNode fun c => (scanQuoted single c).map fun r => (.scalar .quoted r.text, r.cursor)

/-- A plain scalar. A key may begin behind it when a line ended there. -/
def fetchPlain (s : Scanner) : Option Scanner :=
  match s.remember with
  | none => none
  | some s =>
    (scanPlain s.inFlow s.margin s.cursor).map fun r =>
      ((s.goTo r.cursor).allow r.broken).push (.scalar .plain r.text)

/-- A character that can begin a plain scalar before a text. -/
def beginsPlain (flow : Bool) (c : Char) (r : List Char) : Bool :=
  !(isBreak c || isGap c || "-?:,[]\x7b\x7d#&*!|>'\"%@\x60".toList.contains c) ||
    (c == '-' && !r.head?.any isGap) || (!flow && (c == '?' || c == ':') && !blankNext r)

/-- The token that begins with a character. -/
def fetchAt (s : Scanner) (c : Char) (r : List Char) : Option Scanner :=
  let flow := s.inFlow
  match c with
  | '[' => s.fetchOpening .openList
  | '\x7b' => s.fetchOpening .openMapping
  | ']' => s.fetchClosing .closeList
  | '\x7d' => s.fetchClosing .closeMapping
  | ',' => s.fetchComma
  | '*' => s.fetchNode fun c => (scanName c).map fun (n, c) => (.reference n, c)
  | '&' => s.fetchNode fun c => (scanName c).map fun (n, c) => (.anchor n, c)
  | '!' => s.fetchNode (scanTag flow)
  | '\'' => s.fetchQuoted true
  | '"' => s.fetchQuoted false
  | _ =>
    if c = '-' ∧ blankNext r then s.fetchDash
    else if c = '?' ∧ (flow ∨ blankNext r) then s.fetchKey
    else if c = ':' ∧ (flow ∨ blankNext r) then s.fetchValue
    else if c = '|' ∧ !flow then s.fetchBlock true
    else if c = '>' ∧ !flow then s.fetchBlock false
    else if beginsPlain flow c r then s.fetchPlain
    else none

/-- **The next token,** with whatever it makes known of earlier ones. -/
def fetch (s : Scanner) : Option Scanner :=
  match (skipBlank (s.cursor.rest.length + 1) s).dropAllStale with
  | none => none
  | some s =>
    let s := s.unindent s.cursor.column
    match s.cursor.rest with
    | [] => s.fetchFinish
    | c :: r =>
      if s.cursor.column = 0 ∧ c = '%' then s.fetchDirective
      else if s.cursor.standsAtMark '-' then s.fetchDocumentMark .documentStart
      else if s.cursor.standsAtMark '.' then s.fetchDocumentMark .documentEnd
      else s.fetchAt c r

/-! ### The whole text -/

/-- How many tokens nothing that follows can change. -/
def settled (s : Scanner) : Nat :=
  (s.possible :: s.outer).foldl (fun n k => match k with | some k => min n k.number | none => n)
    s.count

/-- The tokens before a fault. -/
def settledTokens (s : Scanner) : List Token :=
  match s.dropAllStale with
  | some s => s.tokens.reverse.take s.settled
  | none => s.tokens.reverse.take s.settled

/-- Fetches tokens to the end of the text or to a fault. -/
def run : Nat → Scanner → Tokens
  | 0, s => ⟨s.settledTokens, false⟩
  | fuel + 1, s =>
    match s.fetch with
    | none => ⟨s.settledTokens, false⟩
    | some s =>
      if s.tokens.head? = some .finish then ⟨s.tokens.reverse, true⟩ else run fuel s

end Scanner

/-- **The tokens of a text.** A text with a character that no document contains has
none. -/
def Tokens.ofText (text : List Char) : Tokens :=
  if text.all isAllowed then Scanner.run (text.length + 2) { cursor := { rest := text } }
  else ⟨[], false⟩

end OneTable.Yaml
