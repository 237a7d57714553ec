import OneTable.Yaml.Token.Scalar

/-!
# Scanning properties and directives

A node may have an anchor, by which it is referred to later, and a tag. A tag is
abbreviated by a handle; the directives before a document say what its handles stand
for, and which version of the notation it is written in.

* `OneTable.Yaml.scanName` – the name of an anchor or of a reference;
* `OneTable.Yaml.scanTag` – a tag;
* `OneTable.Yaml.scanDirective` – a directive.
-/

namespace OneTable.Yaml

/-! ### Anchors and references -/

/-- **The name behind the sign of an anchor or of a reference.** -/
def scanName (s : Cursor) : Option (String × Cursor) :=
  let (name, s) := (s.skip 1).take isWord
  if name ≠ [] ∧ (blankNext s.rest ∨ s.rest.head?.any ("?:,]\x7d%@\x60".toList.contains ·)) then
    some (String.ofList name, s)
  else none

/-! ### Tags -/

/-- A handle: a mark, and letters with another mark behind them, or not. -/
def scanHandle (s : Cursor) : Option (List Char × Cursor) :=
  match s.rest with
  | '!' :: _ =>
    let (letters, s) := (s.skip 1).take isWord
    if s.rest.head? = some '!' then some ('!' :: letters ++ ['!'], s.skip 1)
    else some ('!' :: letters, s)
  | _ => none

/-- A character that a tag is made of. Only tags in angles hold brackets and commas. -/
def isTagChar (verbatim : Bool) (c : Char) : Bool :=
  isWord c || ";/?:@&=+$.%!~*'()".toList.contains c || (verbatim && ",[]".toList.contains c)

/-- The number of octets of a character that begins with an octet. -/
def octetCount? (octet : Nat) : Option Nat :=
  if octet < 0x80 then some 1
  else if octet / 0x20 = 6 then some 2
  else if octet / 0x10 = 14 then some 3
  else if octet / 0x08 = 30 then some 4
  else none

/-- An octet behind a percent sign. -/
def octetAt? : List Char → Option Nat
  | '%' :: a :: b :: _ =>
    match hexValue? a, hexValue? b with
    | some m, some n => some (16 * m + n)
    | _, _ => none
  | _ => none

/-- Further octets of a character. -/
def moreOctets : Nat → Cursor → Option (List Char × Cursor)
  | 0, s => some ([], s)
  | count + 1, s =>
    match octetAt? s.rest with
    | some n =>
      if n / 0x40 = 2 then
        (moreOctets count (s.skip 3)).map fun (cs, s) => (Char.ofNat n :: cs, s)
      else none
    | none => none

/-- The escaped octets of one character; each stands for itself, because tags are
compared with tags of ASCII only. -/
def scanOctets (s : Cursor) : Option (List Char × Cursor) :=
  match octetAt? s.rest with
  | none => none
  | some n =>
    match octetCount? n with
    | none => none
    | some count =>
      (moreOctets (count - 1) (s.skip 3)).map fun (cs, s) => (Char.ofNat n :: cs, s)

/-- The characters of a tag. -/
def tagChars (verbatim : Bool) : Nat → List Char → Cursor → Option (List Char × Cursor)
  | 0, acc, s => some (acc, s)
  | fuel + 1, acc, s =>
    match s.rest with
    | [] => some (acc, s)
    | c :: _ =>
      if !isTagChar verbatim c then some (acc, s)
      else if c = '%' then
        match scanOctets s with
        | none => none
        | some (cs, s) => tagChars verbatim fuel (acc ++ cs) s
      else tagChars verbatim fuel (acc ++ [c]) (s.skip 1)

/-- The characters of a tag behind those already read. There has to be one, the mark of
the handle counting too. -/
def scanTagText (verbatim : Bool) (head : List Char) (s : Cursor) : Option (List Char × Cursor) :=
  match tagChars verbatim (s.rest.length + 1) (head.drop 1) s with
  | none => none
  | some (cs, s) => if cs = [] ∧ head = [] then none else some (cs, s)

/-- A handle and a suffix, before what follows is looked at. -/
def scanTagParts (s : Cursor) : Option (List Char × List Char × Cursor) :=
  if (s.rest.drop 1).head? = some '<' then
    match scanTagText true [] (s.skip 2) with
    | none => none
    | some (suffix, s) => if s.rest.head? = some '>' then some ([], suffix, s.skip 1) else none
  else
    match scanHandle s with
    | none => none
    | some (handle, s) =>
      if 1 < handle.length ∧ handle.getLast? = some '!' then
        (scanTagText false [] s).map fun (suffix, s) => (handle, suffix, s)
      else
        (scanTagText false handle s).map fun (suffix, s) =>
          if suffix = [] then ([], ['!'], s) else (['!'], suffix, s)

/-- **A tag,** with what it ends before. -/
def scanTag (flow : Bool) (s : Cursor) : Option (Token × Cursor) :=
  match scanTagParts s with
  | none => none
  | some (handle, suffix, s) =>
    if blankNext s.rest ∨ (flow ∧ s.rest.head? = some ',') then
      some (.tag (String.ofList handle) (String.ofList suffix), s)
    else none

/-! ### Directives -/

/-- A number of at most nine digits. -/
def scanNumber (s : Cursor) : Option (Nat × Cursor) :=
  let (digits, s) := s.take fun c => '0' ≤ c && c ≤ '9'
  if digits ≠ [] ∧ digits.length ≤ 9 then
    some (digits.foldl (fun n c => 10 * n + (c.toNat - '0'.toNat)) 0, s)
  else none

/-- The two numbers of a version. -/
def scanVersion (s : Cursor) : Option (Token × Cursor) :=
  match scanNumber (s.skipWhile isGap) with
  | none => none
  | some (major, s) =>
    if s.rest.head? = some '.' then
      (scanNumber (s.skip 1)).map fun (minor, s) => (.version major minor, s)
    else none

/-- A handle and its meaning. -/
def scanHandleMeaning (s : Cursor) : Option (Token × Cursor) :=
  match scanHandle (s.skipWhile isGap) with
  | none => none
  | some (handle, s) =>
    if (handle ≠ ['!'] ∧ handle.getLast? ≠ some '!') ∨ !s.rest.head?.any isGap then none
    else
      match scanTagText true [] (s.skipWhile isGap) with
      | none => none
      | some (meaning, s) =>
        if blankNext s.rest then some (.handle (String.ofList handle) (String.ofList meaning), s)
        else none

/-- The content of a directive of a name. -/
def scanDirectiveContent (name : List Char) (s : Cursor) : Option (Token × Cursor) :=
  if name = "YAML".toList then scanVersion s
  else if name = "TAG".toList then scanHandleMeaning s
  else none

/-- **A directive,** up to the end of its line. -/
def scanDirective (s : Cursor) : Option (Token × Cursor) :=
  let (name, s) := (s.skip 1).take isWord
  if name = [] ∨ !blankNext s.rest then none
  else
    match scanDirectiveContent name s with
    | none => none
    | some (token, s) =>
      let s := (s.skipWhile isGap).skipComment
      if lineEnds s.rest then some (token, s.skipBreak) else none

end OneTable.Yaml
