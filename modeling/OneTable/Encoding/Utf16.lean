/-!
# UTF-16

Two bytes make a unit, in one of two orders. A unit is a character unless it is a
surrogate: a high surrogate and the low one behind it make one character together, and
a surrogate that stands alone makes none.

* `OneTable.Utf16.units?` – bytes as units;
* `OneTable.Utf16.decode?` – the text of bytes, when every unit belongs to a character.
-/

namespace OneTable.Utf16

/-- Which byte of a unit comes first. -/
inductive ByteOrder
  | highFirst
  | lowFirst
deriving DecidableEq

/-- The unit of two bytes. -/
def unit (order : ByteOrder) (a b : UInt8) : Nat :=
  match order with
  | .highFirst => a.toNat * 256 + b.toNat
  | .lowFirst => b.toNat * 256 + a.toNat

/-- Bytes as units; a byte may not be left over. -/
def units? (order : ByteOrder) : List UInt8 → Option (List Nat)
  | [] => some []
  | [_] => none
  | a :: b :: r => (units? order r).map (unit order a b :: ·)

/-- The first half of a pair. -/
def isHigh (u : Nat) : Bool :=
  0xD800 ≤ u && u < 0xDC00

/-- The second half of a pair. -/
def isLow (u : Nat) : Bool :=
  0xDC00 ≤ u && u < 0xE000

/-- The characters of units. -/
def characters? : List Nat → Option (List Char)
  | [] => some []
  | u :: r =>
    if isHigh u then
      match r with
      | [] => none
      | v :: r =>
        if isLow v then
          (characters? r).map
            (Char.ofNat (0x10000 + (u - 0xD800) * 0x400 + (v - 0xDC00)) :: ·)
        else none
    else if isLow u then none
    else (characters? r).map (Char.ofNat u :: ·)

/-- **The text of bytes,** when every unit belongs to a character. -/
def decode? (order : ByteOrder) (bytes : List UInt8) : Option (List Char) :=
  (units? order bytes).bind characters?

end OneTable.Utf16
