import OneTable.Text.Blank

/-!
# Globally unique identifiers

An identifier is 128 bits, written as 32 hexadecimal digits in groups of 8, 4, 4, 4
and 12. It is read from the grouped form, with the scheme `urn:uuid:` in front or
without, and from the 32 digits in one run. Around it blanks and then braces are
taken away, however many there are.

* `OneTable.Guid` – the bits;
* `OneTable.Guid.parse?` – the written forms, with or without one pair of braces;
* `OneTable.Guid.fault` – what is wrong with a text that is none of them;
* `OneTable.readGuid?` – the reader of cells.
-/

namespace OneTable

/-- An identifier of 128 bits. -/
structure Guid where
  bits : BitVec 128
deriving DecidableEq

namespace Guid

/-- The value of a hexadecimal digit. -/
def hexValue? (c : Char) : Option Nat :=
  if '0' ≤ c ∧ c ≤ '9' then some (c.toNat - '0'.toNat)
  else if 'a' ≤ c ∧ c ≤ 'f' then some (c.toNat - 'a'.toNat + 10)
  else if 'A' ≤ c ∧ c ≤ 'F' then some (c.toNat - 'A'.toNat + 10)
  else none

/-- A hexadecimal digit of an identifier's text. -/
def hexDigit (n : Nat) : Char :=
  if n < 10 then Char.ofNat ('0'.toNat + n) else Char.ofNat ('a'.toNat + (n - 10))

/-- The value of a run of hexadecimal digits. -/
def hexNumber? (cs : List Char) : Option Nat :=
  cs.foldl (fun n? c => n?.bind fun n => (hexValue? c).map (16 * n + ·)) (some 0)

/-- The last `count` hexadecimal digits of a number. -/
def hexDigits : Nat → Nat → List Char
  | 0, _ => []
  | count + 1, n => hexDigits count (n / 16) ++ [hexDigit (n % 16)]

@[simp]
theorem length_hexDigits (count n : Nat) : (hexDigits count n).length = count := by
  induction count generalizing n with
  | zero => rfl
  | succ count ih => simp [hexDigits, ih]

/-! ### Texts -/

/-- **The text of an identifier:** lower case, in five groups. -/
def text (g : Guid) : List Char :=
  let ds := hexDigits 32 g.bits.toNat
  ds.take 8 ++ '-' :: (ds.drop 8).take 4 ++ '-' :: (ds.drop 12).take 4 ++
    '-' :: (ds.drop 16).take 4 ++ '-' :: ds.drop 20

/-- 32 digits. -/
def parseSimple? (cs : List Char) : Option Guid :=
  if cs.length = 32 then (hexNumber? cs).map fun n => ⟨BitVec.ofNat 128 n⟩ else none

/-- Five groups of digits with dashes between them. -/
def parseGrouped? (cs : List Char) : Option Guid :=
  if cs.length = 36 ∧ cs[8]? = some '-' ∧ cs[13]? = some '-' ∧ cs[18]? = some '-' ∧
      cs[23]? = some '-' then
    parseSimple? (cs.take 8 ++ (cs.drop 9).take 4 ++ (cs.drop 14).take 4 ++ (cs.drop 19).take 4 ++
      cs.drop 24)
  else none

/-- The scheme that may stand before the grouped form, in any case. -/
def scheme : List Char := "urn:uuid:".toList

/-- **The written forms.** -/
def parse? (cs : List Char) : Option Guid :=
  match parseSimple? cs with
  | some g => some g
  | none =>
    match parseGrouped? cs with
    | some g => some g
    | none =>
      match cs with
      | '{' :: r => if r.getLast? = some '}' then parseGrouped? r.dropLast else none
      | _ =>
        if Text.lower (cs.take scheme.length) = scheme then
          parseGrouped? (cs.drop scheme.length)
        else none

/-! ### Faults -/

/-- The number of bytes of a text. -/
def byteLength (cs : List Char) : Nat :=
  cs.foldl (fun k c => k + c.utf8Size) 0

/-- What is wrong with a text that is no identifier. -/
inductive Fault
  | character (c : Char) (position : Nat)
  | length (found : Nat)
  | groupCount (found : Nat)
  | groupLength (group expected found : Nat)
deriving DecidableEq

/-- The wording of a fault. -/
def Fault.message : Fault → String
  | character c position =>
    "invalid character: expected an optional prefix of \x60urn:uuid:\x60 followed by " ++
      "[0-9a-fA-F-], found \x60" ++ String.singleton c ++ "\x60 at " ++ toString position
  | length found =>
    "invalid length: expected length 32 for simple format, found " ++ toString found
  | groupCount found => "invalid group count: expected 5, found " ++ toString found
  | groupLength group expected found =>
    "invalid group length in group " ++ toString group ++ ": expected " ++ toString expected ++
      ", found " ++ toString found

/-- The first character that no identifier has, with the number of the byte it starts
at, counting from one. -/
def strangeCharacter? (position : Nat) : List Char → Option Fault
  | [] => none
  | c :: cs =>
    if c = '-' ∨ (hexValue? c).isSome then strangeCharacter? (position + c.utf8Size) cs
    else some (.character c position)

/-- The positions of the dashes. -/
def dashes (position : Nat) : List Char → List Nat
  | [] => []
  | c :: cs => if c = '-' then position :: dashes (position + 1) cs else dashes (position + 1) cs

/-- **What is wrong with a text that is no identifier:** a strange character before
all, then the number of groups, then the first group of a wrong length. -/
def fault (cs : List Char) : Fault :=
  let (body, offset, plain) : List Char × Nat × Bool :=
    match cs with
    | '{' :: r => if r.getLast? = some '}' then (r.dropLast, 1, false) else (cs, 0, true)
    | _ =>
      if cs.take scheme.length = scheme then (cs.drop scheme.length, scheme.length, false)
      else (cs, 0, true)
  match strangeCharacter? (offset + 1) body with
  | some f => f
  | none =>
    let ds := dashes 0 body
    if ds = [] ∧ plain then .length (byteLength cs)
    else if ds.length ≠ 4 then .groupCount (ds.length + 1)
    else
      let starts := [0, 9, 14, 19]
      let expected := [8, 4, 4, 4]
      let groups := (ds.zip (starts.zip expected)).zipIdx
      match groups.find? fun ((d, s, e), _) => d ≠ s + e with
      | some ((d, s, e), i) => .groupLength i e (d - s)
      | none => .groupLength 4 12 (byteLength cs - 24)

end Guid

/-- A brace. -/
def isBrace (c : Char) : Bool :=
  c == '{' || c == '}'

/-- A cell without the blanks around it and the braces inside them. -/
def unbraced (cs : List Char) : List Char :=
  (((Text.trim cs).dropWhile isBrace).reverse.dropWhile isBrace).reverse

/-- **Reads an identifier** out of a cell. -/
def readGuid? (cs : List Char) : Option Guid :=
  Guid.parse? (unbraced cs)

end OneTable
