import OneTable.Value.Cell

/-!
# Recognising the types of columns

The type of a column is the first of a list of types that all cells speaking for the
column belong to, and text when there is none. A blank cell does not speak. The digits
zero and one are truth values to a reader who asks for truth values, but here they are
integers: the words alone make a column of truth values.

Cells arrive row by row, so what is known of a column between two rows is whether a cell
has spoken and which types are still open.

* `OneTable.ColumnType.accepts` – the cells that belong to a type;
* `OneTable.Evidence` – what is known of a column, with `OneTable.Evidence.add`;
* `OneTable.Evidence.type?` – the type it comes to.
-/

namespace OneTable

/-- The words that make a column of truth values. -/
def truthWords : List String :=
  ["true", "false", "t", "f", "yes", "no", "y", "n"]

/-- **A cell without blanks around it belongs to a type.** -/
def ColumnType.accepts (type : ColumnType) (cs : List Char) : Bool :=
  match type with
  | .string => true
  | .boolean => truthWords.contains (String.ofList (Text.lower cs))
  | .integer => (readInteger cs).toBool
  | .float => (readFloat cs).toBool
  | .date => (readDate? cs).isSome
  | .dateTime => (readDateTime? cs).isSome
  | .guid => (readGuid? cs).isSome

/-- The types that can be recognised, in the order in which they are preferred. -/
def ColumnType.recognised : List ColumnType :=
  [.boolean, .integer, .float, .date, .dateTime, .guid]

/-- What is known of a column. -/
structure Evidence where
  /-- A cell has spoken. -/
  spoken : Bool
  /-- The types that every cell so far belongs to. -/
  possible : List ColumnType
deriving DecidableEq

namespace Evidence

/-- Nothing is known. -/
def none : Evidence := ⟨false, ColumnType.recognised⟩

/-- **Takes a cell into account.** -/
def add (e : Evidence) (cell : String) : Evidence :=
  let cs := Text.trim cell.toList
  if cs = [] then e else ⟨true, e.possible.filter fun t => t.accepts cs⟩

/-- **The type of a column,** when a cell has spoken. -/
def type? (e : Evidence) : Option ColumnType :=
  if e.spoken then some (e.possible.headD .string) else Option.none

end Evidence

/-- Takes a row into account. Cells beyond the columns are not looked at. -/
def Evidence.addRow : List Evidence → List String → List Evidence
  | e :: es, c :: cs => e.add c :: addRow es cs
  | es, _ => es

end OneTable
