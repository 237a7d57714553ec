import OneTable.Json.Basic

/-!
# Reading JSON

A value is read from the left to the right. Between two signs there may be blanks and
line breaks, behind the value nothing else.

* `OneTable.Json.ofText?` – the tree of a text.
-/

namespace OneTable.Json

/-- A blank between signs. -/
def isGap (c : Char) : Bool :=
  c == ' ' || c == '\n' || c == '\t' || c == '\r'

/-- A text without the blanks at its front. -/
def skip (cs : List Char) : List Char := cs.dropWhile isGap

/-- A word at the front of a text. -/
def takeWord? (word : String) (value : Json) (cs : List Char) : Option (Json × List Char) :=
  if cs.take word.length = word.toList then some (value, cs.drop word.length) else none

/-- A value that holds no others. -/
def takeLeaf? (cs : List Char) : Option (Json × List Char) :=
  match cs with
  | '"' :: r =>
    (takeText? r).map fun (ps, r) => (.text ((textOf? ps).map String.ofList), r)
  | 'n' :: _ => takeWord? "null" .null cs
  | 't' :: _ => takeWord? "true" (.boolean true) cs
  | 'f' :: _ => takeWord? "false" (.boolean false) cs
  | _ => (Numeral.take? cs).map fun (n, r) => (.number n, r)

/-- A key, with the colon behind it. -/
def takeKey? (cs : List Char) : Option (Option String × List Char) :=
  match skip cs with
  | '"' :: r =>
    match takeText? r with
    | none => none
    | some (ps, r) =>
      match skip r with
      | ':' :: r => some ((textOf? ps).map String.ofList, r)
      | _ => none
  | _ => none

mutual

/-- A value. -/
def take? : Nat → List Char → Option (Json × List Char)
  | 0, _ => none
  | fuel + 1, cs =>
    match skip cs with
    | '[' :: r =>
      match skip r with
      | ']' :: r => some (.list [], r)
      | r => (takeEntries? fuel r).map fun (es, r) => (.list es, r)
    | '\x7b' :: r =>
      match skip r with
      | '\x7d' :: r => some (.object [], r)
      | r => (takeFields? fuel r).map fun (es, r) => (.object es, r)
    | r => takeLeaf? r

/-- The entries of a list, of which there is at least one, and the closing bracket. -/
def takeEntries? : Nat → List Char → Option (List Json × List Char)
  | 0, _ => none
  | fuel + 1, cs =>
    match take? fuel cs with
    | none => none
    | some (entry, r) =>
      match skip r with
      | ',' :: r => (takeEntries? fuel r).map fun (es, r) => (entry :: es, r)
      | ']' :: r => some ([entry], r)
      | _ => none

/-- The entries of an object, of which there is at least one, and the closing bracket. -/
def takeFields? : Nat → List Char → Option (List (Option String × Json) × List Char)
  | 0, _ => none
  | fuel + 1, cs =>
    match takeKey? cs with
    | none => none
    | some (key, r) =>
      match take? fuel r with
      | none => none
      | some (value, r) =>
        match skip r with
        | ',' :: r => (takeFields? fuel r).map fun (es, r) => ((key, value) :: es, r)
        | '\x7d' :: r => some ([(key, value)], r)
        | _ => none

end

/-- **The tree of a text.** At least every second step takes a character, so the length of
the text bounds the steps. -/
def ofText? (text : String) : Option Json :=
  let cs := text.toList
  match take? (2 * cs.length + 2) cs with
  | some (j, r) => if skip r = [] then some j else none
  | none => none

end OneTable.Json
