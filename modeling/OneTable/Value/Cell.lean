import OneTable.Calendar.Pattern
import OneTable.Number.Decimal
import OneTable.Value.Basic

/-!
# Reading cells

A cell is the text between two delimiters. The empty cell is a missing value of
every type; any other cell is a value of a type or a fault. Cells of every type
but text are read without the blanks around them.

* `OneTable.CellFault` – why a cell is no value of a type, with its wording;
* `OneTable.readBoolean?` – the words for truth values;
* `OneTable.readCell` – the reader.
-/

namespace OneTable

/-- Why a cell cannot be read or converted. -/
inductive CellFault
  | integer (text : String) (cause : IntegerFault)
  | float (text : String) (cause : FloatFault)
  | boolean (text : String)
  | date (text : String)
  | dateTime (text : String)
  | guid (text : String) (cause : Guid.Fault)
  | noConverter (source destination : ColumnType)
deriving DecidableEq

namespace CellFault

/-- The wording of the fault itself. -/
def message : CellFault → String
  | integer text _ => "Failed to parse '" ++ text ++ "' as integer"
  | float text _ => "Failed to parse '" ++ text ++ "' as float"
  | boolean text => "Failed to parse '" ++ text ++ "' as boolean"
  | date text => "Failed to parse '" ++ text ++ "' as date"
  | dateTime text => "Failed to parse '" ++ text ++ "' as datetime"
  | guid text _ => "Failed to parse '" ++ text ++ "' as GUID"
  | noConverter source destination =>
    "No converter from " ++ source.name ++ " to " ++ destination.name

/-- The wordings of what lies behind the fault. -/
def causes : CellFault → List String
  | integer _ cause => [cause.message]
  | float _ cause => [cause.message]
  | guid _ cause => [cause.message]
  | _ => []

end CellFault

/-- The words for truth values, in any case. -/
def readBoolean? (cs : List Char) : Option Bool :=
  let word := String.ofList (Text.lower cs)
  if word ∈ ["true", "t", "yes", "y", "1"] then some true
  else if word ∈ ["false", "f", "no", "n", "0"] then some false
  else none

/-- A cell that is not empty, as a value of a type. -/
def readPresent (text : String) (type : ColumnType) : Except CellFault Value :=
  let cs := text.toList
  let core := Text.trim cs
  let coreText := String.ofList core
  match type with
  | .string => .ok (.string text)
  | .integer => ((readInteger core).map .integer).mapError (.integer text)
  | .float => ((readFloat core).map .float).mapError (.float text)
  | .boolean => ((readBoolean? core).map Value.boolean).elim (.error (.boolean coreText)) .ok
  | .date => ((readDate? core).map Value.date).elim (.error (.date coreText)) .ok
  | .dateTime =>
    ((readDateTime? core).map Value.dateTime).elim (.error (.dateTime coreText)) .ok
  | .guid =>
    ((readGuid? cs).map Value.guid).elim (.error (.guid text (Guid.fault (unbraced cs)))) .ok

/-- **Reads a cell:** the empty cell is a missing value. -/
def readCell (text : String) (type : ColumnType) : Except CellFault (Option Value) :=
  if text = "" then .ok none else (readPresent text type).map some

@[simp]
theorem readCell_empty (type : ColumnType) : readCell "" type = .ok none := rfl

end OneTable
