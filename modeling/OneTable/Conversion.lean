import OneTable.Value.Cell

/-!
# Conversion paths

A conversion path leads from the type a column was recognised as to the type of
the values that come out. Every type leads to itself, every type leads to text,
and a few paths widen or narrow without guessing: integers to floats, truth values
to the integers zero and one, dates to instants and back.

* `OneTable.ConversionPath` – a path, named by its converter;
* `OneTable.ColumnType.destinations` – where a type leads to, itself first;
* `OneTable.ConversionPath.standard`, `OneTable.ConversionPath.available`,
  `OneTable.ConversionPath.toward?`, `OneTable.ConversionPath.resolve?` – the paths
  that are offered;
* `OneTable.ConversionPath.convert` – a cell along a path.
-/

namespace OneTable

/-- A way from the type of a column to the type of its values. -/
structure ConversionPath where
  source : ColumnType
  destination : ColumnType
  converter : String
deriving DecidableEq

/-- Where a type leads to; the first destination is the type itself. -/
def ColumnType.destinations : ColumnType → List ColumnType
  | .string => [.string]
  | .integer => [.integer, .float, .string]
  | .float => [.float, .string]
  | .boolean => [.boolean, .integer, .string]
  | .date => [.date, .dateTime, .string]
  | .dateTime => [.dateTime, .date, .string]
  | .guid => [.guid, .string]

theorem ColumnType.self_mem_destinations (t : ColumnType) : t ∈ t.destinations := by
  cases t <;> decide

namespace ConversionPath

/-! ### The paths that are offered -/

/-- The path between two types; its converter is named by both. -/
def between (source destination : ColumnType) : ConversionPath :=
  ⟨source, destination, source.name ++ "->" ++ destination.name⟩

@[simp]
theorem between_source (s d : ColumnType) : (between s d).source = s := rfl

@[simp]
theorem between_destination (s d : ColumnType) : (between s d).destination = d := rfl

/-- The path of a type to itself, which a column takes unless it is told otherwise. -/
def standard (type : ColumnType) : ConversionPath :=
  between type type

/-- Every path from a type, the standard one first. -/
def available (type : ColumnType) : List ConversionPath :=
  type.destinations.map (between type)

/-- The path from a type to a destination, if it is offered. -/
def toward? (type destination : ColumnType) : Option ConversionPath :=
  (available type).find? fun p => p.destination = destination

theorem standard_mem_available (t : ColumnType) : standard t ∈ available t :=
  List.mem_map_of_mem t.self_mem_destinations

theorem source_of_mem_available {t : ColumnType} {p : ConversionPath} (h : p ∈ available t) :
    p.source = t := by
  obtain ⟨d, -, rfl⟩ := List.mem_map.1 h
  rfl

/-- The text before the first arrow and the text after it. -/
def splitArrow? : List Char → Option (List Char × List Char)
  | '-' :: '>' :: r => some ([], r)
  | [] => none
  | c :: r => (splitArrow? r).map fun (s, d) => (c :: s, d)

/-- **The path a converter's name stands for.** Both ends may be aliases; the path that
comes out bears the written name. -/
def resolve? (converter : String) : Option ConversionPath :=
  match splitArrow? converter.toList with
  | none => none
  | some (s, d) =>
    match ColumnType.parse? (String.ofList s), ColumnType.parse? (String.ofList d) with
    | some source, some destination =>
      if destination ∈ source.destinations then some (between source destination) else none
    | _, _ => none

/-! ### Converting cells -/

/-- A cell as a value of the source type of a path. A column of instants also holds
dates, at midnight, because an item of dates widens to it. -/
def readSource (text : String) (type : ColumnType) : Except CellFault (Option Value) :=
  match readCell text type with
  | .ok v => .ok v
  | .error e =>
    if type = .dateTime then
      match readDate? (Text.trim text.toList) with
      | some d => .ok (some (.dateTime d.atMidnight))
      | none => .error e
    else .error e

/-- A value as a value of another type. -/
def Value.cast (v : Value) (destination : ColumnType) : Except CellFault Value :=
  if v.type = destination then .ok v
  else
    match v, destination with
    | .integer n, .float => .ok (.float (Binary64.ofInt n.toInt))
    | .boolean b, .integer => .ok (.integer (if b then 1 else 0))
    | .date d, .dateTime => .ok (.dateTime d.atMidnight)
    | .dateTime t, .date => .ok (.date t.date)
    | v, destination => .error (.noConverter v.type destination)

/-- **Converts a cell along a path.** The empty cell is a missing value, and a path to
text keeps the cell as it is. -/
def convert (path : ConversionPath) (text : String) : Except CellFault (Option Value) :=
  if text = "" then .ok none
  else if path.destination = .string then .ok (some (.string text))
  else
    match readSource text path.source with
    | .error e => .error e
    | .ok none => .ok none
    | .ok (some v) => (Value.cast v path.destination).map some

end ConversionPath

end OneTable
