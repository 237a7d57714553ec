import OneTable.Number.Decimal
import OneTable.Yaml.Character

/-!
# What a plain scalar reads as

A scalar without quotes is more than a text: some words are nothing or a truth value,
some texts are numbers. A text that reads as one of these has to be quoted to be a text.

Integers may have a sign and a base mark of one letter. Digits behind a leading zero are
no number. A float has to be finite, or be written as one of the words for the others.

* `OneTable.Yaml.isNothing`, `OneTable.Yaml.truth?` – the words;
* `OneTable.Yaml.unsigned?` – a number from zero up to a limit;
* `OneTable.Yaml.readsAsValue` – the texts that are something else than a text.
-/

namespace OneTable.Yaml

/-- The words for nothing. -/
def isNothing (cs : List Char) : Bool :=
  ["null", "Null", "NULL", "~"].contains (String.ofList cs)

/-- The words for truth values. -/
def truth? (cs : List Char) : Option Bool :=
  let word := String.ofList cs
  if ["true", "True", "TRUE"].contains word then some true
  else if ["false", "False", "FALSE"].contains word then some false
  else none

/-! ### Integers -/

/-- The value of a digit in a base up to sixteen. -/
def digitIn? (base : Nat) (c : Char) : Option Nat :=
  let n :=
    if '0' ≤ c ∧ c ≤ '9' then c.toNat - '0'.toNat
    else if 'a' ≤ c ∧ c ≤ 'f' then c.toNat - 'a'.toNat + 10
    else if 'A' ≤ c ∧ c ≤ 'F' then c.toNat - 'A'.toNat + 10
    else base
  if n < base then some n else none

/-- The value of digits, of which there has to be one. -/
def digitsIn? (base : Nat) (cs : List Char) : Option Nat :=
  if cs = [] then none
  else cs.foldl (fun n? c => n?.bind fun n => (digitIn? base c).map (base * n + ·)) (some 0)

/-- A sign. -/
def isSign (c : Char) : Bool :=
  c == '+' || c == '-'

/-- The text behind a sign, if there is one. -/
def unsignedPart (cs : List Char) : List Char :=
  match cs with
  | c :: r => if isSign c then r else cs
  | [] => []

/-- The text behind a plus sign, if there is one. -/
def plusless : List Char → List Char
  | '+' :: r => r
  | cs => cs

/-- **Digits that are no number:** behind an optional sign a zero and more digits. -/
def isZeroPadded (cs : List Char) : Bool :=
  match unsignedPart cs with
  | '0' :: c :: r => (c :: r).all isDigit
  | _ => false

/-- The base that a text begins with, and what follows. -/
def based? : List Char → Option (Nat × List Char)
  | '0' :: 'x' :: r => some (16, r)
  | '0' :: 'o' :: r => some (8, r)
  | '0' :: 'b' :: r => some (2, r)
  | _ => none

/-- Digits of a base that a text names. -/
def basedDigits? (cs : List Char) : Option Nat :=
  (based? cs).bind fun (base, ds) => digitsIn? base ds

/-- A number of the values up to a limit. -/
def upTo (limit : Nat) (n : Option Nat) : Option Nat :=
  n.filter (· ≤ limit)

/-- **A number from zero up to a limit.** -/
def unsigned? (limit : Nat) (cs : List Char) : Option Nat :=
  match upTo limit (basedDigits? (plusless cs)) with
  | some n => some n
  | none => if isZeroPadded cs then none else upTo limit (digitsIn? 10 (plusless cs))

/-- The magnitude of a number below zero, up to a limit. -/
def belowZero? (limit : Nat) (cs : List Char) : Option Nat :=
  match cs with
  | '-' :: r =>
    match upTo limit (basedDigits? r) with
    | some n => some n
    | none => if isZeroPadded cs then none else upTo limit (digitsIn? 10 r)
  | _ => none

/-- An integer of 128 bits, with or without a sign. -/
def isInteger (cs : List Char) : Bool :=
  (unsigned? (Nat.pow 2 128 - 1) cs).isSome || (belowZero? (Nat.pow 2 127) cs).isSome

/-! ### Floats -/

/-- The words for the numbers that are not finite. -/
def isSpecialFloat (cs : List Char) : Bool :=
  [".inf", ".Inf", ".INF", "+.inf", "+.Inf", "+.INF", "-.inf", "-.Inf", "-.INF", ".nan", ".NaN",
    ".NAN"].contains (String.ofList cs)

/-- A finite float, with at most one sign. -/
def isFiniteFloat (cs : List Char) : Bool :=
  let body := plusless cs
  if body ≠ cs ∧ body.head?.any isSign then false
  else
    match readFloat body with
    | .ok x => x.isFinite
    | .error _ => false

/-- A float. -/
def isFloat (cs : List Char) : Bool :=
  isSpecialFloat cs || isFiniteFloat cs

/-! ### Texts that are something else -/

/-- **A plain text that would not be read as a text.** -/
def readsAsValue (cs : List Char) : Bool :=
  cs.isEmpty || isNothing cs || (truth? cs).isSome || isInteger cs || isZeroPadded cs || isFloat cs

end OneTable.Yaml
