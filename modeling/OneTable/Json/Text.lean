import OneTable.Guid

/-!
# Texts in JSON

A text stands in double quotes. What a quoted text may not hold is written as an escape,
and any code unit of UTF-16 can be written as one, also a half of a surrogate pair. So a
written text is a list of pieces, and it is a text only when its halves form pairs.

* `OneTable.Json.Piece` – a character or a code unit;
* `OneTable.Json.takeText?` – takes a written text apart;
* `OneTable.Json.textOf?` – the text of the pieces;
* `OneTable.Json.quoted` – the written form of a text.
-/

namespace OneTable.Json

/-- A piece of a written text. -/
inductive Piece
  | char (c : Char)
  | unit (n : Nat)
deriving DecidableEq

/-! ### Reading -/

/-- The character of an escape of one letter. -/
def escaped? (c : Char) : Option Char :=
  match c with
  | '"' => some '"'
  | '\\' => some '\\'
  | '/' => some '/'
  | 'b' => some '\x08'
  | 'f' => some '\x0c'
  | 'n' => some '\n'
  | 'r' => some '\r'
  | 't' => some '\t'
  | _ => none

/-- **Takes a written text apart,** behind its opening quote and up to its closing one.
Characters below the blank have to be escaped. -/
def takeText? : List Char → Option (List Piece × List Char)
  | [] => none
  | '"' :: r => some ([], r)
  | '\\' :: 'u' :: a :: b :: c :: d :: r =>
    match Guid.hexNumber? [a, b, c, d] with
    | some n => (takeText? r).map fun (ps, r) => (.unit n :: ps, r)
    | none => none
  | '\\' :: e :: r =>
    match escaped? e with
    | some c => (takeText? r).map fun (ps, r) => (.char c :: ps, r)
    | none => none
  | c :: r =>
    if c < ' ' ∨ c = '\\' then none else (takeText? r).map fun (ps, r) => (.char c :: ps, r)

/-- The first half of a surrogate pair. -/
def isHigh (n : Nat) : Bool := 0xD800 ≤ n && n ≤ 0xDBFF

/-- The second half of a surrogate pair. -/
def isLow (n : Nat) : Bool := 0xDC00 ≤ n && n ≤ 0xDFFF

/-- **The text of the pieces,** if no half of a pair stands alone. -/
def textOf? : List Piece → Option (List Char)
  | [] => some []
  | .char c :: ps => (textOf? ps).map (c :: ·)
  | .unit n :: .unit m :: ps =>
    if isHigh n then
      if isLow m then
        (textOf? ps).map (Char.ofNat (0x10000 + (n - 0xD800) * 0x400 + (m - 0xDC00)) :: ·)
      else none
    else if isLow n then none
    else (textOf? (.unit m :: ps)).map (Char.ofNat n :: ·)
  | .unit n :: ps =>
    if isHigh n ∨ isLow n then none else (textOf? ps).map (Char.ofNat n :: ·)

/-! ### Writing -/

/-- A character in quotes. -/
def escape (c : Char) : List Char :=
  match c with
  | '"' => ['\\', '"']
  | '\\' => ['\\', '\\']
  | '\x08' => ['\\', 'b']
  | '\x0c' => ['\\', 'f']
  | '\n' => ['\\', 'n']
  | '\r' => ['\\', 'r']
  | '\t' => ['\\', 't']
  | c => if c < ' ' then '\\' :: 'u' :: Guid.hexDigits 4 c.toNat else [c]

/-- **The written form of a text.** -/
def quoted (s : String) : String :=
  String.ofList ('"' :: s.toList.flatMap escape ++ ['"'])

end OneTable.Json
