import OneTable.Calendar.Pattern
import OneTable.Column
import OneTable.Config.Basic
import OneTable.FilterMode
import OneTable.Json.Read
import OneTable.Value.Basic

/-!
# Columns and values as JSON

A column is an object of its name, its type and whether the type is known; it may also be
written as a list of the three in this order. A value is an object of a single entry, whose
key is the kind of the value.

* `OneTable.Column.toJson`, `OneTable.OutputColumn.toJson`, `OneTable.Value.toJson`, … –
  the JSON of the types of the library;
* `OneTable.Column.ofJson?`, … – what such JSON stands for.
-/

namespace OneTable

namespace Json

/-- The text of a tree that is one. -/
def text? : Json → Option String
  | text s => s
  | _ => none

/-- The truth value of a tree that is one. -/
def boolean? : Json → Option Bool
  | boolean b => some b
  | _ => none

/-- The values of a key. There may be one or none. -/
def member? (entries : List (Option String × Json)) (key : String) : Option (Option Json) :=
  match entries.filter fun e => e.1 = some key with
  | [] => some none
  | [(_, value)] => some (some value)
  | _ => none

/-- **The members of a record with these keys,** which is an object or a list of the members
in order. An object may have further entries, but all its keys are texts; a list has no
further entries. -/
def members? (keys : List String) : Json → Option (List (Option Json))
  | object entries =>
    if entries.all fun e => e.1.isSome then keys.mapM (member? entries) else none
  | list entries =>
    if entries.length ≤ keys.length then
      some ((List.range keys.length).map fun i => entries[i]?)
    else none
  | _ => none

end Json

/-! ### Types and modes -/

/-- A type, by its name. -/
def ColumnType.toJson (t : ColumnType) : Json := Json.ofText t.name

/-- The type of a name. -/
def ColumnType.ofJson? (j : Json) : Option ColumnType := j.text?.bind ColumnType.parse?

/-- A mode, by its name. -/
def FilterMode.toJson (m : FilterMode) : Json := Json.ofText m.name

/-- The mode of a name, which has to be written as the mode is. -/
def FilterMode.ofName? (name : String) : Option FilterMode :=
  if name = FilterMode.union.name then some .union
  else if name = FilterMode.intersection.name then some .intersection
  else none

/-- The mode of a name, or of an object with the name as its key and nothing as its value. -/
def FilterMode.ofJson? : Json → Option FilterMode
  | .text s => s.bind ofName?
  | .object [(key, .null)] => key.bind ofName?
  | _ => none

/-! ### Columns -/

/-- A column. -/
def Column.toJson (c : Column) : Json :=
  Json.ofFields [("name", Json.ofText c.name), ("type", c.type.toJson),
    ("has_type", .boolean c.typed)]

/-- **The column of a tree.** Its type is known unless it says otherwise. -/
def Column.ofJson? (j : Json) : Option Column :=
  match j.members? ["name", "type", "has_type"] with
  | some [some name, some type, typed] =>
    match name.text?, ColumnType.ofJson? type, (typed.getD (.boolean true)).boolean? with
    | some name, some type, some typed => some ⟨name, type, typed⟩
    | _, _, _ => none
  | _ => none

/-- A column of the output. -/
def OutputColumn.toJson (c : OutputColumn) : Json :=
  Json.ofFields [("name", Json.ofText c.name), ("type", c.type.toJson)]

/-- **The column of the output of a tree.** -/
def OutputColumn.ofJson? (j : Json) : Option OutputColumn :=
  match j.members? ["name", "type"] with
  | some [some name, some type] =>
    match name.text?, ColumnType.ofJson? type with
    | some name, some type => some ⟨name, type⟩
    | _, _ => none
  | _ => none

/-! ### Values -/

namespace Pattern

/-- A day as it is written exactly; there may be blanks before every sign. -/
def exactDate : Pattern :=
  [.field .year, .gap, .mark '-', .field .month, .gap, .mark '-', .field .day, .gap]

/-- An instant as it is written exactly; there may be blanks before every sign. -/
def exactDateTime : Pattern :=
  exactDate ++ [.mark 'T', .field .hour, .gap, .mark ':', .field .minute, .gap, .mark ':',
    .field .second, .fraction, .gap]

end Pattern

/-- The kind of a value and what it is. A float that is not finite is nothing. -/
def Value.toJson (v : Value) : Json :=
  let (kind, j) : String × Json :=
    match v with
    | .string s => ("String", Json.ofText s)
    | .integer n => ("Integer", .number (Json.Numeral.ofInteger n.toInt))
    | .float x => ("Float", if x.isFinite then .number (Json.Numeral.ofFloat x) else .null)
    | .boolean b => ("Boolean", .boolean b)
    | .date d => ("Date", Json.ofText (String.ofList d.text))
    | .dateTime t => ("DateTime", Json.ofText (String.ofList t.exactText))
    | .guid g => ("Guid", Json.ofText (String.ofList g.text))
  Json.ofFields [(kind, j)]

/-- The value of a kind. -/
def Value.ofKind? (kind : String) (j : Json) : Option Value :=
  match kind, j with
  | "String", .text s => s.map .string
  | "Integer", .number n => n.integer?.map .integer
  | "Float", .number n => n.float?.map .float
  | "Boolean", .boolean b => some (.boolean b)
  | "Date", .text s => s.bind fun s => (Pattern.exactDate.date? s.toList).map .date
  | "DateTime", .text s => s.bind fun s => (Pattern.exactDateTime.dateTime? s.toList).map .dateTime
  | "Guid", .text s => s.bind fun s => (Guid.parse? s.toList).map .guid
  | _, _ => none

/-- **The value of a tree.** -/
def Value.ofJson? : Json → Option Value
  | .object [(some kind, j)] => ofKind? kind j
  | _ => none

end OneTable
