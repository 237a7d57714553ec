/-!
# Decimal integers of 64 bits

An integer cell holds an optional sign and decimal digits. It is read from the
left, and the first thing that is wrong decides the fault: a character that is no
digit, or a digit that takes the value out of the 64 bits. So a text too long for
an integer is reported as too large even when a letter follows later.

* `OneTable.IntegerFault` – what can be wrong, with its wording;
* `OneTable.readInteger` – the reader;
* `OneTable.integerText` – the text of an integer.
-/

namespace OneTable

/-- Why a text is not an integer. -/
inductive IntegerFault
  | empty
  | invalidDigit
  | tooLarge
  | tooSmall
deriving DecidableEq

/-- The wording of a fault. -/
def IntegerFault.message : IntegerFault → String
  | empty => "cannot parse integer from empty string"
  | invalidDigit => "invalid digit found in string"
  | tooLarge => "number too large to fit in target type"
  | tooSmall => "number too small to fit in target type"

/-- The value of a decimal digit. -/
def digitValue? (c : Char) : Option Nat :=
  if '0' ≤ c ∧ c ≤ '9' then some (c.toNat - '0'.toNat) else none

/-- An integer that fits in 64 bits, or the fault of the side it leaves on. -/
def fitInteger (n : Int) : Except IntegerFault Int :=
  if n < -Nat.pow 2 63 then .error .tooSmall
  else if Nat.pow 2 63 ≤ n then .error .tooLarge
  else .ok n

/-- **The digits after a sign.** The value grows away from zero in the direction of
the sign, one digit at a time, and every step is checked. -/
def readDigits (negative : Bool) : List Char → Int → Except IntegerFault Int
  | [], n => .ok n
  | c :: cs, n =>
    match digitValue? c with
    | none => .error .invalidDigit
    | some d =>
      match fitInteger (if negative then n * 10 - d else n * 10 + d) with
      | .error e => .error e
      | .ok m => readDigits negative cs m

/-- The integer a text denotes, with an optional sign. A sign alone has no digit. -/
def readSigned (cs : List Char) : Except IntegerFault Int :=
  match cs with
  | [] => .error .empty
  | ['+'] => .error .invalidDigit
  | ['-'] => .error .invalidDigit
  | '+' :: ds => readDigits false ds 0
  | '-' :: ds => readDigits true ds 0
  | ds => readDigits false ds 0

/-- **Reads an integer of 64 bits.** -/
def readInteger (cs : List Char) : Except IntegerFault Int64 :=
  (readSigned cs).map Int64.ofInt

/-- The decimal digits of a natural number. -/
def decimalDigits (n : Nat) : List Char :=
  Nat.toDigits 10 n

/-- An integer in decimal, with a sign only when it is negative. -/
def integerText (n : Int) : List Char :=
  if n < 0 then '-' :: decimalDigits n.natAbs else decimalDigits n.natAbs

end OneTable
