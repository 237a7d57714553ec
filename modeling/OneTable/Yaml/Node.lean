import OneTable.Yaml.Token.Scanner

/-!
# Nodes of documents

A document is a tree of scalars, lists and mappings. Nodes that were named by an anchor
may stand in several places; in the tree they are simply repeated. A node that refers to
one it is part of cannot be read, and neither can what would stand behind a fault: both
are *cut*.

The tree of a text with a fault holds everything in front of the fault, so that a reader
meets the first thing that is wrong, whatever it is.

* `OneTable.Yaml.Node` – the nodes;
* `OneTable.Yaml.Reading` – the tokens that are left, with the names that were given;
* `OneTable.Yaml.Document.ofText` – the document of a text.
-/

namespace OneTable.Yaml

/-- A node of a document. -/
inductive Node
  | scalar (kind : ScalarKind) (tag : Option String) (text : String)
  | list (items : List Node)
  | mapping (entries : List (Node × Node))
  /-- A node that cannot be read. -/
  | cut
deriving Inhabited

/-- What is left to be read. -/
structure Reading where
  tokens : List Token
  /-- The nodes that have a name, the latest first. A node that is still being read is
  cut. -/
  named : List (String × Node) := []
  /-- What the handles of tags stand for. -/
  handles : List (String × String)

namespace Reading

/-- Behind the next token. -/
def skip (r : Reading) : Reading := { r with tokens := r.tokens.drop 1 }

/-- The next token. -/
def next? (r : Reading) : Option Token := r.tokens.head?

/-- The next token is one of some. -/
def nextIn (r : Reading) (ts : List Token) : Bool := r.next?.any ts.contains

/-- The latest node of a name. -/
def lookUp? (r : Reading) (name : String) : Option Node :=
  (r.named.find? fun e => e.1 = name).map Prod.snd

/-- Gives a name to the node that is read next. -/
def name (r : Reading) (name : Option String) : Reading :=
  match name with
  | some n => { r with named := (n, .cut) :: r.named }
  | none => r

/-- Completes the node that got its name when so many names were given. -/
def complete (r : Reading) (name : Option String) (earlier : Nat) (node : Node) : Reading :=
  match name with
  | some n => { r with named := r.named.set (r.named.length - 1 - earlier) (n, node) }
  | none => r

end Reading

/-! ### Properties -/

/-- What stands in front of a node. -/
structure Properties where
  anchor : Option String := none
  tag : Option (String × String) := none

/-- The anchor and the tag of a node, in either order. -/
def properties (r : Reading) : Properties × Reading :=
  match r.tokens with
  | .anchor n :: .tag h s :: ts => (⟨some n, some (h, s)⟩, { r with tokens := ts })
  | .tag h s :: .anchor n :: ts => (⟨some n, some (h, s)⟩, { r with tokens := ts })
  | .anchor n :: ts => (⟨some n, none⟩, { r with tokens := ts })
  | .tag h s :: ts => (⟨none, some (h, s)⟩, { r with tokens := ts })
  | _ => ({}, r)

/-- The tag that a handle and a suffix stand for. -/
def fullTag? (handles : List (String × String)) (handle suffix : String) : Option String :=
  if handle = "" then some suffix
  else (handles.find? fun e => e.1 = handle).map fun e => e.2 ++ suffix

/-- The tag of properties; none is a fault only when a handle is unknown. -/
def Properties.resolve (p : Properties) (r : Reading) : Option (Option String) :=
  match p.tag with
  | none => some none
  | some (h, s) => (fullTag? r.handles h s).map some

/-! ### Nodes from tokens -/

/-- Where a node stands. -/
inductive Place
  /-- Between brackets. -/
  | flow
  /-- In a block. -/
  | block
  /-- In a block mapping, where the dashes of a list need not be indented. -/
  | entry
deriving DecidableEq

/-- A scalar that is not there. -/
def absent (tag : Option String := none) : Node := .scalar .plain tag ""

mutual

/-- The node that comes next, and what is left unless there is a fault. `fuel` bounds the
number of steps. -/
def node (fuel : Nat) (place : Place) (r : Reading) : Node × Option Reading :=
  match fuel with
  | 0 => (.cut, none)
  | fuel + 1 =>
    match r.tokens with
    | .reference n :: _ =>
      match r.lookUp? n with
      | some found => (found, some r.skip)
      | none => (.cut, none)
    | _ =>
      let (p, r) := properties r
      match p.resolve r with
      | none => (.cut, none)
      | some tag =>
        let earlier := r.named.length
        let (made, left) := content fuel place tag p (r.name p.anchor)
        (made, left.map fun r => r.complete p.anchor earlier made)

/-- A node behind its properties. -/
def content (fuel : Nat) (place : Place) (tag : Option String) (p : Properties) (r : Reading) :
    Node × Option Reading :=
  match fuel with
  | 0 => (.cut, none)
  | fuel + 1 =>
    match r.tokens with
    | .scalar kind text :: _ => (.scalar kind tag (String.ofList text), some r.skip)
    | .openList :: _ =>
      let (items, left) := flowItems fuel true r.skip
      (.list items, left)
    | .openMapping :: _ =>
      let (entries, left) := flowEntries fuel true r.skip
      (.mapping entries, left)
    | t :: _ =>
      if t = .dash ∧ place = .entry then
        let (items, left) := loose fuel r
        (.list items, left)
      else if t = .blockList ∧ place ≠ .flow then
        let (items, left) := blockItems fuel r.skip
        (.list items, left)
      else if t = .blockMapping ∧ place ≠ .flow then
        let (entries, left) := blockEntries fuel r.skip
        (.mapping entries, left)
      else if p.anchor.isSome ∨ p.tag.isSome then (absent tag, some r)
      else (.cut, none)
    | [] => (.cut, none)

/-- A node, or an absent one where the next token is one of some. -/
def nodeUnless (fuel : Nat) (stop : List Token) (place : Place) (r : Reading) :
    Node × Option Reading :=
  match fuel with
  | 0 => (.cut, none)
  | fuel + 1 =>
    if r.tokens = [] then (.cut, none)
    else if r.nextIn stop then (absent, some r)
    else node fuel place r

/-- The entries of a list in a block. -/
def blockItems (fuel : Nat) (r : Reading) : List Node × Option Reading :=
  match fuel with
  | 0 => ([], none)
  | fuel + 1 =>
    match r.next? with
    | some .dash =>
      match nodeUnless fuel [.dash, .blockEnd] .block r.skip with
      | (item, none) => ([item], none)
      | (item, some r) =>
        let (items, left) := blockItems fuel r
        (item :: items, left)
    | some .blockEnd => ([], some r.skip)
    | _ => ([], none)

/-- The entries of a list that is not indented further than the mapping around it. -/
def loose (fuel : Nat) (r : Reading) : List Node × Option Reading :=
  match fuel with
  | 0 => ([], none)
  | fuel + 1 =>
    match r.next? with
    | none => ([], none)
    | some .dash =>
      match nodeUnless fuel [.dash, .key, .value, .blockEnd] .block r.skip with
      | (item, none) => ([item], none)
      | (item, some r) =>
        let (items, left) := loose fuel r
        (item :: items, left)
    | some _ => ([], some r)

/-- The value behind a key in a block. -/
def blockValue (fuel : Nat) (r : Reading) : Node × Option Reading :=
  match fuel with
  | 0 => (.cut, none)
  | fuel + 1 =>
    match r.next? with
    | some .value => nodeUnless fuel [.key, .value, .blockEnd] .entry r.skip
    | some _ => (absent, some r)
    | none => (.cut, none)

/-- The entries of a mapping in a block. -/
def blockEntries (fuel : Nat) (r : Reading) : List (Node × Node) × Option Reading :=
  match fuel with
  | 0 => ([], none)
  | fuel + 1 =>
    match r.next? with
    | some .key =>
      match nodeUnless fuel [.key, .value, .blockEnd] .entry r.skip with
      | (key, none) => ([(key, .cut)], none)
      | (key, some r) =>
        match blockValue fuel r with
        | (value, none) => ([(key, value)], none)
        | (value, some r) =>
          let (entries, left) := blockEntries fuel r
          ((key, value) :: entries, left)
    | some .blockEnd => ([], some r.skip)
    | _ => ([], none)

/-- The value behind a key between brackets, before a comma or a closing bracket. -/
def flowValue (fuel : Nat) (close : Token) (r : Reading) : Node × Option Reading :=
  match fuel with
  | 0 => (.cut, none)
  | fuel + 1 =>
    match r.next? with
    | some .value => nodeUnless fuel [.comma, close] .flow r.skip
    | some _ => (absent, some r)
    | none => (.cut, none)

/-- A mapping of one entry inside a list between brackets, behind the token of its key. A
key that is not there takes the next token with it. -/
def flowPair (fuel : Nat) (r : Reading) : Node × Option Reading :=
  match fuel with
  | 0 => (.cut, none)
  | fuel + 1 =>
    let (key, left) :=
      if r.nextIn [.value, .comma, .closeList] then (absent, some r.skip) else node fuel .flow r
    match left with
    | none => (.mapping [(key, .cut)], none)
    | some r =>
      let (value, left) := flowValue fuel .closeList r
      (.mapping [(key, value)], left)

/-- An entry of a list between brackets. -/
def flowItem (fuel : Nat) (r : Reading) : Node × Option Reading :=
  match fuel with
  | 0 => (.cut, none)
  | fuel + 1 => if r.next? = some .key then flowPair fuel r.skip else node fuel .flow r

/-- The entries of a list between brackets. A comma may stand behind the last one. -/
def flowItems (fuel : Nat) (first : Bool) (r : Reading) : List Node × Option Reading :=
  match fuel with
  | 0 => ([], none)
  | fuel + 1 =>
    if r.next? = some .closeList then ([], some r.skip)
    else if !first ∧ r.next? ≠ some .comma then ([], none)
    else
      let r := if first then r else r.skip
      if !first ∧ r.next? = some .closeList then ([], some r.skip)
      else
        match flowItem fuel r with
        | (item, none) => ([item], none)
        | (item, some r) =>
          let (items, left) := flowItems fuel false r
          (item :: items, left)

/-- An entry of a mapping between brackets. A node without the token of a key is a key
without a value. -/
def flowEntry (fuel : Nat) (r : Reading) : (Node × Node) × Option Reading :=
  match fuel with
  | 0 => ((.cut, .cut), none)
  | fuel + 1 =>
    if r.next? = some .key then
      match nodeUnless fuel [.value, .comma, .closeMapping] .flow r.skip with
      | (key, none) => ((key, .cut), none)
      | (key, some r) =>
        let (value, left) := flowValue fuel .closeMapping r
        ((key, value), left)
    else
      let (key, left) := node fuel .flow r
      ((key, if left.isNone then .cut else absent), left)

/-- The entries of a mapping between brackets. -/
def flowEntries (fuel : Nat) (first : Bool) (r : Reading) : List (Node × Node) × Option Reading :=
  match fuel with
  | 0 => ([], none)
  | fuel + 1 =>
    if r.next? = some .closeMapping then ([], some r.skip)
    else if !first ∧ r.next? ≠ some .comma then ([], none)
    else
      let r := if first then r else r.skip
      if !first ∧ r.next? = some .closeMapping then ([], some r.skip)
      else
        match flowEntry fuel r with
        | (entry, none) => ([entry], none)
        | (entry, some r) =>
          let (entries, left) := flowEntries fuel false r
          (entry :: entries, left)

end

/-! ### Documents -/

/-- A document: its node, and whether the text is a single document without a fault. -/
structure Document where
  root : Node
  sound : Bool

namespace Document

/-- The handles that need no directive. -/
def standardHandles : List (String × String) :=
  [("!", "!"), ("!!", "tag:yaml.org,2002:")]

/-- What directives say: the version may be named once, and so may every handle. -/
def directives (versioned : Bool) (handles : List (String × String)) :
    List Token → Option (List (String × String) × List Token)
  | .version major minor :: ts =>
    if versioned ∨ major ≠ 1 ∨ (minor ≠ 1 ∧ minor ≠ 2) then none else directives true handles ts
  | .handle name meaning :: ts =>
    if handles.any fun e => e.1 = name then none
    else directives versioned (handles ++ [(name, meaning)]) ts
  | ts => some (handles ++ standardHandles, ts)

/-- The tokens end behind this document. -/
def endsHere (ts : List Token) : Bool :=
  match ts.dropWhile (· == .documentEnd) with
  | [.finish] => true
  | _ => false

/-- A token that stands between documents. -/
def isOutside : Token → Bool
  | .version .. | .handle .. | .documentStart | .documentEnd | .finish => true
  | _ => false

/-- The document whose content comes next. Behind an explicit mark there may be none. -/
def ofContent (explicit : Bool) (handles : List (String × String)) (ts : List Token) : Document :=
  if explicit ∧ ts.head?.any isOutside then ⟨absent, endsHere ts⟩
  else
    match node (5 * ts.length + 10) .block ⟨ts, [], handles⟩ with
    | (root, none) => ⟨root, false⟩
    | (root, some r) => ⟨root, endsHere r.tokens⟩

/-- The document of tokens. -/
def ofTokens (ts : List Token) : Document :=
  match ts with
  | [] => ⟨.cut, false⟩
  | .finish :: _ => ⟨absent, true⟩
  | t :: _ =>
    match directives false [] ts with
    | none => ⟨.cut, false⟩
    | some (handles, rest) =>
      match rest with
      | .documentStart :: rest => ofContent true handles rest
      | _ =>
        match t with
        | .version .. | .handle .. => ⟨.cut, false⟩
        | _ => ofContent false handles ts

/-- **The document of a text.** A text without any node is the document of an absent
one. -/
def ofText (text : List Char) : Document :=
  let ts := Tokens.ofText text
  let d := ofTokens ts.list
  { d with sound := d.sound && ts.whole }

end Document

end OneTable.Yaml
