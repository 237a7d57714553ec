/-!
# Binary floating point of 64 bits

A float cell is a number of the IEEE 754 format `binary64`. It is kept as its bit
pattern, and all arithmetic on it is exact arithmetic on natural numbers followed
by one rounding: every finite number of the format is `m · 2 ^ q` for a natural
significand `m` and an integer `q`, so reading, converting and printing need no
floating-point operation at all.

* `OneTable.Binary64` – a bit pattern;
* `OneTable.roundRatio` – the bits of the number nearest to a ratio, ties going to
  the even significand and what is too large to infinity;
* `OneTable.Binary64.ofInt`, `OneTable.Binary64.ofDecimal` – the nearest number to
  an integer and to a decimal `d · 10 ^ e`.
-/

namespace OneTable

/-- A number of the format `binary64`, by its bits. -/
structure Binary64 where
  bits : UInt64
deriving DecidableEq

/-! ### Rounding a ratio -/

/-- The quotient of two natural numbers to the nearest, a half going to the even
neighbour. -/
def roundHalfEven (num den : Nat) : Nat :=
  let q := num / den
  let r := 2 * (num % den)
  if den < r ∨ (r = den ∧ q % 2 = 1) then q + 1 else q

/-- `num / den` in units of `2 ^ e`, again as a ratio. -/
def inUnits (num den : Nat) (e : Int) : Nat × Nat :=
  if 0 ≤ e then (num, den * Nat.pow 2 e.toNat) else (num * Nat.pow 2 (-e).toNat, den)

/-- The bits of the positive infinity: above all finite numbers. -/
def infinityBits : Nat := 0x7FF * Nat.pow 2 52

/-- The exponent of the unit in which `num / den` has 53 significant bits, or the
smallest exponent of the format. -/
def unitExponent (num den : Nat) : Int :=
  let e := (num.log2 : Int) - den.log2 - 53
  let s := inUnits num den e
  max (if Nat.pow 2 53 ≤ s.1 / s.2 then e + 1 else e) (-1074)

/-- **The bits of the number nearest to `num / den`.** Consecutive bit patterns are
consecutive numbers, so the rounded significand is simply added to its exponent
field, and a carry out of it lands in the next exponent. -/
def roundRatio (num den : Nat) : Nat :=
  if num = 0 then 0
  else
    let e := unitExponent num den
    let s := inUnits num den e
    min ((e + 1074).toNat * Nat.pow 2 52 + roundHalfEven s.1 s.2) infinityBits

namespace Binary64

/-! ### Making numbers -/

/-- The number with this sign and these bits of magnitude. -/
def ofMagnitude (negative : Bool) (bits : Nat) : Binary64 :=
  ⟨UInt64.ofNat (if negative then Nat.pow 2 63 + bits else bits)⟩

/-- Infinity with a sign. -/
def infinity (negative : Bool) : Binary64 :=
  ofMagnitude negative infinityBits

/-- The quiet number that is not a number. -/
def nan : Binary64 :=
  ofMagnitude false (0x7FF8 * Nat.pow 2 48)

/-- The nearest number to an integer. -/
def ofInt (n : Int) : Binary64 :=
  ofMagnitude (decide (n < 0)) (roundRatio n.natAbs 1)

/-- **The nearest number to `digits · 10 ^ exponent`.** An exponent far outside the
range of the format decides at once, so that no large power is computed. -/
def ofDecimal (negative : Bool) (digits : Nat) (exponent : Int) : Binary64 :=
  ofMagnitude negative <|
    if digits = 0 then 0
    else if 400 < exponent then infinityBits
    else if exponent + ((digits.log2 / 3 + 2 : Nat) : Int) < -330 then 0
    else if 0 ≤ exponent then roundRatio (digits * Nat.pow 10 exponent.toNat) 1
    else roundRatio digits (Nat.pow 10 (-exponent).toNat)

/-! ### Looking at numbers -/

/-- The sign bit. -/
def negative (x : Binary64) : Bool :=
  decide (Nat.pow 2 63 ≤ x.bits.toNat)

/-- The bits without the sign. -/
def magnitude (x : Binary64) : Nat :=
  x.bits.toNat % Nat.pow 2 63

/-- Neither an infinity nor not a number. -/
def isFinite (x : Binary64) : Bool :=
  decide (x.magnitude < infinityBits)

/-- Not a number. -/
def isNaN (x : Binary64) : Bool :=
  decide (infinityBits < x.magnitude)

/-- The magnitude of a finite number as a significand `m` and an exponent `q`: the
magnitude is `m · 2 ^ q`. -/
def parts (x : Binary64) : Nat × Int :=
  let field : Nat := x.magnitude / Nat.pow 2 52
  let fraction : Nat := x.magnitude % Nat.pow 2 52
  if field = 0 then (fraction, -1074) else (Nat.pow 2 52 + fraction, (field : Int) - 1075)

/-- The magnitude of a finite number as a ratio of natural numbers. -/
def ratio (x : Binary64) : Nat × Nat :=
  let (m, q) := x.parts
  if 0 ≤ q then (m * Nat.pow 2 q.toNat, 1) else (m, Nat.pow 2 (-q).toNat)

/-- The integer a number is, when it is one. -/
def toInt? (x : Binary64) : Option Int :=
  if x.isFinite then
    let (num, den) := x.ratio
    if num % den = 0 then
      some (if x.negative then -((num / den : Nat) : Int) else ((num / den : Nat) : Int))
    else none
  else none

/-! ### Products and quotients -/

/-- The product of two finite numbers, rounded. -/
def mul (x y : Binary64) : Binary64 :=
  let (a, b) := x.ratio
  let (c, d) := y.ratio
  ofMagnitude (x.negative != y.negative) (roundRatio (a * c) (b * d))

/-- The quotient of two finite numbers, rounded; the divisor is not zero. -/
def div (x y : Binary64) : Binary64 :=
  let (a, b) := x.ratio
  let (c, d) := y.ratio
  ofMagnitude (x.negative != y.negative) (roundRatio (a * d) (b * c))

end Binary64

end OneTable
