import OneTable.Text.Blank

/-!
# Filter modes

The output of a group shows either every column that some item has, or only the
columns that all items have.

* `OneTable.FilterMode` – the two modes, with `OneTable.FilterMode.name`;
* `OneTable.FilterMode.parse` – a mode from its name.
-/

namespace OneTable

/-- Which columns of a group the output shows. -/
inductive FilterMode
  /-- Columns of any item. -/
  | union
  /-- Columns of every item. -/
  | intersection
deriving DecidableEq, Inhabited

namespace FilterMode

/-- The name of a mode. -/
def name : FilterMode → String
  | union => "union"
  | intersection => "intersection"

/-- A text in the form in which names of modes are compared. -/
def normal (text : String) : String :=
  String.ofList (Text.lower (Text.trim text.toList))

/-- **The mode of a name,** without regard to case and to blanks around it; a text that
names none is given back in its compared form. -/
def parse (text : String) : Except String FilterMode :=
  let word := normal text
  if word = "union" then .ok union
  else if word = "intersection" then .ok intersection
  else .error word

/-- What is said about a word that names no mode. -/
def unknownMessage (word : String) : String :=
  "Unknown filter mode '" ++ word ++ "'. Expected 'union' or 'intersection'"

/-- The mode that is called `intersection`, and else the union. -/
def ofFlag (intersectionOnly : Bool) : FilterMode :=
  if intersectionOnly then intersection else union

end FilterMode

end OneTable
