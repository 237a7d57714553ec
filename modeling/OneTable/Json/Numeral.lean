import OneTable.Number.Decimal
import OneTable.Number.Shortest

/-!
# Numerals in JSON

A numeral is kept as it is written: its digits before and behind the point, and its
exponent. Which number it stands for depends on what is asked for. An integer has to be
written without a point and without an exponent. A float is computed from as many
leading digits as fit in 64 bits, by one multiplication or division with a power of ten.

* `OneTable.Json.Numeral` – a written number, with `OneTable.Json.Numeral.text`;
* `OneTable.Json.Numeral.take?` – the numeral at the front of a text;
* `OneTable.Json.Numeral.integer?`, `OneTable.Json.Numeral.float?` – the numbers;
* `OneTable.Json.Numeral.ofInteger`, `OneTable.Json.Numeral.ofFloat` – their numerals.
-/

namespace OneTable.Json

/-- A written number. -/
structure Numeral where
  negative : Bool := false
  /-- The digits before the point. -/
  whole : List Char
  /-- The digits behind the point; without any there is no point. -/
  fraction : List Char := []
  /-- The digits of the exponent, and whether it is negative. -/
  exponent : Option (Bool × List Char) := none
deriving DecidableEq

namespace Numeral

/-! ### Taking numerals apart -/

/-- The digits at the front of a text; at least one has to be there. -/
def takeDigits? (cs : List Char) : Option (List Char × List Char) :=
  let ds := cs.takeWhile isDigit
  if ds = [] then none else some (ds, cs.dropWhile isDigit)

/-- The digits before the point. Only the zero begins with a zero. -/
def takeWhole? (cs : List Char) : Option (List Char × List Char) :=
  match takeDigits? cs with
  | some ('0' :: _ :: _, _) => none
  | result => result

/-- The digits behind a point, if a point follows. -/
def takeFraction? : List Char → Option (List Char × List Char)
  | '.' :: r => takeDigits? r
  | cs => some ([], cs)

/-- The sign of an exponent. -/
def takeSign : List Char → Bool × List Char
  | '+' :: r => (false, r)
  | '-' :: r => (true, r)
  | cs => (false, cs)

/-- The exponent, if one follows. -/
def takeExponent? (cs : List Char) : Option (Option (Bool × List Char) × List Char) :=
  match cs with
  | c :: r =>
    if c = 'e' ∨ c = 'E' then
      let (negative, r) := takeSign r
      (takeDigits? r).map fun (ds, r) => (some (negative, ds), r)
    else some (none, cs)
  | [] => some (none, [])

/-- **The numeral at the front of a text.** -/
def take? (cs : List Char) : Option (Numeral × List Char) :=
  let (negative, cs) : Bool × List Char :=
    match cs with
    | '-' :: r => (true, r)
    | cs => (false, cs)
  match takeWhole? cs with
  | none => none
  | some (whole, r) =>
    match takeFraction? r with
    | none => none
    | some (fraction, r) =>
      (takeExponent? r).map fun (exponent, r) => (⟨negative, whole, fraction, exponent⟩, r)

/-! ### Numbers -/

/-- **The integer of 64 bits** that a numeral stands for. The negative zero is none. -/
def integer? (n : Numeral) : Option Int64 :=
  if n.fraction = [] ∧ n.exponent = none then
    let value := digitsValue n.whole
    if n.negative then
      if 0 < value ∧ value ≤ Nat.pow 2 63 then some (Int64.ofInt (-value)) else none
    else if value < Nat.pow 2 63 then some (Int64.ofInt value) else none
  else none

/-- Appends digits to a number up to the first one that makes it too large for 64 bits,
and counts the digits that are left out. -/
def absorb (value : Nat) : List Char → Nat × Nat
  | [] => (value, 0)
  | d :: ds =>
    let next := 10 * value + (d.toNat - '0'.toNat)
    if next < Nat.pow 2 64 then absorb next ds else (value, ds.length + 1)

/-- The leading digits of a numeral, and the power of ten they are to be multiplied with
when there is no exponent. -/
def leading (n : Numeral) : Nat × Int :=
  let (value, left) := absorb 0 n.whole
  let (value, leftBehind) := absorb value n.fraction
  (value, (left : Int) - (n.fraction.length - leftBehind))

/-- The largest power of ten that is a float. -/
def largestTen : Nat := 308

/-- A power of ten as a float. -/
def ten (exponent : Nat) : Binary64 :=
  Binary64.ofMagnitude false (roundRatio (Nat.pow 10 exponent) 1)

/-- The float of a number times a power of ten, if it is finite. A division by more than
the largest power is made in two steps, behind which nothing is left. -/
def scaled? (value : Nat) (exponent : Int) : Option Binary64 :=
  let x := Binary64.ofInt value
  if value = 0 then some x
  else if 0 ≤ exponent then
    if largestTen < exponent then none
    else
      let y := x.mul (ten exponent.toNat)
      if y.isFinite then some y else none
  else
    let places := (-exponent).toNat
    if places ≤ largestTen then some (x.div (ten places))
    else if places ≤ 2 * largestTen then
      some ((x.div (ten largestTen)).div (ten (places - largestTen)))
    else some (Binary64.ofInt 0)

/-- The largest exponent that is looked at. -/
def largestExponent : Nat := Nat.pow 2 31 - 1

/-- The magnitude of the float of a numeral. -/
def magnitude? (n : Numeral) : Option Binary64 :=
  let (value, shift) := n.leading
  match n.exponent with
  | none => scaled? value shift
  | some (negative, ds) =>
    let e := digitsValue ds
    if largestExponent < e then
      if value ≠ 0 ∧ !negative then none else some (Binary64.ofInt 0)
    else scaled? value (if negative then shift - e else shift + e)

/-- **The float that a numeral stands for.** -/
def float? (n : Numeral) : Option Binary64 :=
  n.magnitude?.map fun x => Binary64.ofMagnitude n.negative x.magnitude

/-! ### Writing -/

/-- The text of a numeral. An exponent is written with its sign. -/
def text (n : Numeral) : List Char :=
  (if n.negative then ['-'] else []) ++ n.whole ++
    (if n.fraction = [] then [] else '.' :: n.fraction) ++
    match n.exponent with
    | none => []
    | some (negative, ds) => 'e' :: (if negative then '-' else '+') :: ds

/-- The numeral of an integer. -/
def ofInteger (n : Int) : Numeral :=
  { negative := decide (n < 0), whole := decimalDigits n.natAbs }

/-- The numeral of digits with a power of ten, without an exponent of its own: a point
always has a digit behind it. -/
def ofPositional (negative : Bool) (digits : Nat) (exponent : Int) : Numeral :=
  let cs := positional digits exponent
  let fraction := (cs.dropWhile (· ≠ '.')).drop 1
  { negative := negative
    whole := cs.takeWhile (· ≠ '.')
    fraction := if fraction = [] then ['0'] else fraction }

/-- The numeral of digits with a power of ten, with one digit before the point. -/
def ofScientific (negative : Bool) (digits : Nat) (power : Int) : Numeral :=
  let ds := decimalDigits digits
  { negative := negative
    whole := ds.take 1
    fraction := ds.drop 1
    exponent := some (decide (power < 0), decimalDigits power.natAbs) }

/-- **The numeral of a finite float:** the fewest digits that read back, with an exponent
only from `10 ^ 16` on and below `10 ^ -5`. -/
def ofFloat (x : Binary64) : Numeral :=
  if x.magnitude = 0 then ofPositional x.negative 0 0
  else
    let (digits, exponent) := shortest .even x
    let power := exponent + ((decimalDigits digits).length - 1 : Nat)
    if -5 ≤ power ∧ power < 16 then ofPositional x.negative digits exponent
    else ofScientific x.negative digits power

end Numeral

end OneTable.Json
