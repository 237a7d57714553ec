import OneTable.Number.Integer
import OneTable.Number.Binary64

/-!
# Decimal literals

A float cell holds an optional sign and then either one of the words `inf`,
`infinity` and `nan`, in any case, or a decimal number: digits with at most one
point among them, at least one digit, and optionally an exponent of at least one
digit. The literal is first taken apart into an integer of all its digits and a
power of ten, and then rounded once.

* `OneTable.Decimal` – `digits · 10 ^ exponent`;
* `OneTable.Decimal.read?` – the grammar of a decimal number without a sign;
* `OneTable.readFloat` – the reader of float cells.
-/

namespace OneTable

/-- A non-negative decimal number `digits · 10 ^ exponent`. -/
structure Decimal where
  digits : Nat
  exponent : Int
deriving DecidableEq

/-- A decimal digit. -/
def isDigit (c : Char) : Bool :=
  '0' ≤ c && c ≤ '9'

/-- The value of a list of decimal digits. -/
def digitsValue (cs : List Char) : Nat :=
  cs.foldl (fun n c => 10 * n + (c.toNat - '0'.toNat)) 0

/-- An exponent: an optional sign and at least one digit, and nothing else. -/
def readExponent? (cs : List Char) : Option Int :=
  let unsigned (ds : List Char) : Option Nat :=
    if ds ≠ [] ∧ ds.all isDigit then some (digitsValue ds) else none
  match cs with
  | '+' :: ds => (unsigned ds).map Int.ofNat
  | '-' :: ds => (unsigned ds).map fun n => -(n : Int)
  | ds => (unsigned ds).map Int.ofNat

/-- **The grammar of a decimal number.** -/
def Decimal.read? (cs : List Char) : Option Decimal :=
  let whole := cs.takeWhile isDigit
  let rest := cs.dropWhile isDigit
  let (fraction, rest) :=
    match rest with
    | '.' :: r => (r.takeWhile isDigit, r.dropWhile isDigit)
    | r => ([], r)
  if whole = [] ∧ fraction = [] then none
  else
    let digits := digitsValue (whole ++ fraction)
    let shift : Int := fraction.length
    match rest with
    | [] => some ⟨digits, -shift⟩
    | c :: r =>
      if c = 'e' ∨ c = 'E' then (readExponent? r).map fun e => ⟨digits, e - shift⟩
      else none

/-- Why a text is not a float. -/
inductive FloatFault
  | empty
  | invalid
deriving DecidableEq

/-- The wording of a fault. -/
def FloatFault.message : FloatFault → String
  | empty => "cannot parse float from empty string"
  | invalid => "invalid float literal"

/-- A magnitude: a word or a decimal number. -/
def readMagnitude (negative : Bool) (cs : List Char) : Except FloatFault Binary64 :=
  let word := cs.map Char.toLower
  if word = "inf".toList ∨ word = "infinity".toList then .ok (Binary64.infinity negative)
  else if word = "nan".toList then .ok Binary64.nan
  else
    match Decimal.read? cs with
    | some d => .ok (Binary64.ofDecimal negative d.digits d.exponent)
    | none => .error .invalid

/-- **Reads a float.** -/
def readFloat (cs : List Char) : Except FloatFault Binary64 :=
  match cs with
  | [] => .error .empty
  | '+' :: ds => readMagnitude false ds
  | '-' :: ds => readMagnitude true ds
  | ds => readMagnitude false ds

end OneTable
