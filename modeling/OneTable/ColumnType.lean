import OneTable.Text.Blank

/-!
# Column types

The cells of a column share one of seven types. The same types describe what a
sample of cells was recognised as and what the cells are converted to.

* `OneTable.ColumnType` – the types;
* `OneTable.ColumnType.name` – the name a type is written under;
* `OneTable.ColumnType.parse?` – the names a type is read from, aliases included;
* `OneTable.ColumnType.join` – the narrowest type that holds the cells of two.
-/

namespace OneTable

/-- The type of the cells of a column. -/
inductive ColumnType
  | string
  | integer
  | float
  | boolean
  | date
  | dateTime
  | guid
deriving DecidableEq, Inhabited

namespace ColumnType

/-- Every type, in the order in which they are listed to a reader. -/
def all : List ColumnType := [string, integer, float, boolean, date, dateTime, guid]

/-! ### Names -/

/-- The name a type is written under. -/
def name : ColumnType → String
  | string => "string"
  | integer => "integer"
  | float => "float"
  | boolean => "boolean"
  | date => "date"
  | dateTime => "datetime"
  | guid => "guid"

/-- Further names a type is known by. -/
def aliases : ColumnType → List String
  | string => ["str", "text"]
  | integer => ["int", "long"]
  | float => ["double"]
  | boolean => ["bool"]
  | date => []
  | dateTime => ["date-time", "timestamp"]
  | guid => ["uuid"]

/-- **The type of a name,** without regard to case and to blanks around it. -/
def parse? (text : String) : Option ColumnType :=
  let word := String.ofList (Text.lower (Text.trim text.toList))
  all.find? fun t => t.name == word || t.aliases.contains word

/-- What is said about a text that names no type. -/
def unknownMessage (text : String) : String :=
  "Unknown column type '" ++ text ++ "'. Supported types: " ++
    String.intercalate ", " (all.map name)

/-! ### Widening -/

/-- **The narrowest type that holds the cells of both.** Integers widen to floats and
dates to instants; any other mixture is text. -/
def join (a b : ColumnType) : ColumnType :=
  if a = b then a
  else
    match a, b with
    | integer, float => float
    | float, integer => float
    | date, dateTime => dateTime
    | dateTime, date => dateTime
    | _, _ => string

@[simp]
theorem join_self (a : ColumnType) : join a a = a := by
  simp [join]

theorem join_comm (a b : ColumnType) : join a b = join b a := by
  cases a <;> cases b <;> decide

theorem join_assoc (a b c : ColumnType) : join (join a b) c = join a (join b c) := by
  cases a <;> cases b <;> cases c <;> decide

end ColumnType

end OneTable
