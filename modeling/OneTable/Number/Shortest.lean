import OneTable.Number.Integer
import OneTable.Number.Binary64

/-!
# The fewest digits that read back

A float is printed with the fewest decimal digits from which the same float is
read. For one digit, then two, and so on, the two neighbours of the number on the
grid of that many digits are tried; the first grid with a neighbour that reads
back wins, and of two such neighbours the nearer. Which of two equally near ones is
taken is for the notation to say.

* `OneTable.Tie` – the choice between two equally near neighbours;
* `OneTable.shortest` – these digits and the power of ten that belongs to them;
* `OneTable.positional` – their notation without an exponent.
-/

namespace OneTable

/-- `10 ^ e ≤ num / den`. -/
def powerBelow (num den : Nat) (e : Int) : Bool :=
  if 0 ≤ e then den * Nat.pow 10 e.toNat ≤ num else den ≤ num * Nat.pow 10 (-e).toNat

/-- The exponent of the leading decimal digit of a positive ratio. The binary
logarithm gives it up to two places, and the largest power below decides. -/
def leadingExponent (num den : Nat) : Int :=
  let guess := Int.fdiv (((num.log2 : Int) - den.log2) * 30103) 100000
  ([guess + 1, guess, guess - 1].find? (powerBelow num den)).getD (guess - 2)

/-- `num / den` in units of `10 ^ e`, again as a ratio. -/
def inTens (num den : Nat) (e : Int) : Nat × Nat :=
  if 0 ≤ e then (num, den * Nat.pow 10 e.toNat) else (num * Nat.pow 10 (-e).toNat, den)

/-- The bits of the number nearest to `c · 10 ^ e`. -/
def bitsOfTens (c : Nat) (e : Int) : Nat :=
  if 0 ≤ e then roundRatio (c * Nat.pow 10 e.toNat) 1 else roundRatio c (Nat.pow 10 (-e).toNat)

/-- The choice between two equally near neighbours. -/
inductive Tie
  /-- The upper one. -/
  | up
  /-- The one with an even last digit. -/
  | even
deriving DecidableEq

/-- The upper one of two neighbours is to be taken, which lie a unit `d` apart, when the
number lies `r` above the lower one. -/
def Tie.takesAbove (tie : Tie) (below r d : Nat) : Bool :=
  d < 2 * r || (d == 2 * r && (tie == .up || below % 2 == 1))

/-- **The neighbour that reads back on one grid,** if there is one. -/
def onGrid? (tie : Tie) (bits num den : Nat) (e : Int) : Option Nat :=
  let (n, d) := inTens num den e
  let below := n / d
  let above := below + 1
  match bitsOfTens below e == bits, bitsOfTens above e == bits with
  | true, true => some (if tie.takesAbove below (n % d) d then above else below)
  | true, false => some below
  | false, true => some above
  | false, false => none

/-- Tries the grids from `count` more digits on. -/
def searchGrids (tie : Tie) (bits num den : Nat) (e : Int) : Nat → Nat × Int
  | 0 => (num / den, 0)
  | count + 1 =>
    match onGrid? tie bits num den e with
    | some c => (c, e)
    | none => searchGrids tie bits num den (e - 1) count

/-- A number without the zeros at its end, and how many there were; at most `fuel`
are looked at. -/
def stripZeros : Nat → Nat → Nat × Nat
  | 0, n => (n, 0)
  | fuel + 1, n =>
    if n % 10 = 0 ∧ n ≠ 0 then
      let (m, k) := stripZeros fuel (n / 10)
      (m, k + 1)
    else (n, 0)

/-- **The fewest digits that read back** of a finite float that is not zero: the
float is read from `digits · 10 ^ exponent`. -/
def shortest (tie : Tie) (x : Binary64) : Nat × Int :=
  let (num, den) := x.ratio
  let (c, e) := searchGrids tie x.magnitude num den (leadingExponent num den) 17
  let (digits, zeros) := stripZeros 20 c
  (digits, e + zeros)

/-- Digits and a power of ten without an exponent: zeros fill up to the point, and
there is a point only before a digit. -/
def positional (digits : Nat) (exponent : Int) : List Char :=
  let ds := decimalDigits digits
  if 0 ≤ exponent then ds ++ List.replicate exponent.toNat '0'
  else
    let places := (-exponent).toNat
    if places < ds.length then
      ds.take (ds.length - places) ++ '.' :: ds.drop (ds.length - places)
    else
      '0' :: '.' :: (List.replicate (places - ds.length) '0' ++ ds)

end OneTable
