import OneTable.Calendar.Date
import OneTable.ColumnType
import OneTable.Guid
import OneTable.Number.Shortest

/-!
# Values

A value is a cell after conversion. Its text is what a unified table shows for it,
and a value other than a float can be read from it again, but for the fraction of a
second that an instant may have.

* `OneTable.Value` – a value, with `OneTable.Value.type`;
* `OneTable.Value.text` – its text.
-/

namespace OneTable

/-- A typed value. -/
inductive Value
  | string (s : String)
  | integer (n : Int64)
  | float (x : Binary64)
  | boolean (b : Bool)
  | date (d : Date)
  | dateTime (t : DateTime)
  | guid (g : Guid)
deriving DecidableEq

/-- The type of a value. -/
def Value.type : Value → ColumnType
  | string _ => .string
  | integer _ => .integer
  | float _ => .float
  | boolean _ => .boolean
  | date _ => .date
  | dateTime _ => .dateTime
  | guid _ => .guid

/-- **The text of a float:** an integer below `2 ^ 63` as an integer, so that zero has
no sign; else the fewest digits that read back, the upper ones of two that are equally
near, without an exponent. -/
def Binary64.text (x : Binary64) : List Char :=
  if x.isNaN then "NaN".toList
  else if x.isFinite then
    match x.toInt? with
    | some n =>
      if n.natAbs < Nat.pow 2 63 then integerText n else sign ++ digits
    | none => sign ++ digits
  else sign ++ "inf".toList
where
  sign : List Char := if x.negative then ['-'] else []
  digits : List Char := positional (shortest .up x).1 (shortest .up x).2

/-- The text of a truth value. -/
def booleanText (b : Bool) : String :=
  if b then "true" else "false"

/-- **The text of a value.** -/
def Value.text : Value → String
  | string s => s
  | integer n => String.ofList (integerText n.toInt)
  | float x => String.ofList x.text
  | boolean b => booleanText b
  | date d => String.ofList d.text
  | dateTime t => String.ofList t.text
  | guid g => String.ofList g.text

end OneTable
