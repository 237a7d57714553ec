import OneTable.Encoding.Utf8
import OneTable.Fault
import OneTable.Record.Basic
import OneTable.Yaml.Node
import OneTable.Yaml.Plain

/-!
# Reading records

The document of a record is a mapping. Entries of unknown keys are passed over, a known
key may not be repeated, and an entry that is nothing counts as missing. A text may be
written in any style; numbers and truth values only plainly.

What is wrong is met in the order of the document, so a wrong type of a column in front
of a fault of notation is the one that is reported.

* `OneTable.Record.ofNode` – the record of a document's node;
* `OneTable.Record.ofText`, `OneTable.Record.ofBytes` – the record of a document.
-/

namespace OneTable

open Yaml

/-- The result of reading a node. -/
abbrev Yaml.Node.Read (α : Type) := Except DocumentFault α

namespace Yaml.Node

/-- The tag of a type of the notation. -/
def standardTag (name : String) : String :=
  "tag:yaml.org,2002:" ++ name

/-- The text of a scalar, whatever its style. -/
def readText : Node → Read String
  | .scalar _ _ text => .ok text
  | _ => .error .malformed

/-- A scalar that may be something else than a text: it is plain, or it is a block of
lines with the tag of its type. -/
def valueText? (type : String) : Node → Option (List Char)
  | .scalar .plain _ text => some text.toList
  | .scalar .literal tag text => if tag = some (standardTag type) then some text.toList else none
  | _ => none

/-- A truth value. -/
def readTruth (n : Node) : Read Bool :=
  match (n.valueText? "bool").bind truth? with
  | some b => .ok b
  | none => .error .malformed

/-- A number from zero up to a limit. -/
def readNumber (limit : Nat) (n : Node) : Read Nat :=
  match (n.valueText? "int").bind (unsigned? (Nat.pow 2 64 - 1)) with
  | some k => if k ≤ limit then .ok k else .error .malformed
  | none => .error .malformed

/-- The items of a list; a plain scalar that is empty is an empty list. -/
def readItems : Node → Read (List Node)
  | .list items => .ok items
  | .scalar .plain _ "" => .ok []
  | _ => .error .malformed

/-- A list of what a reader reads. -/
def readList {α : Type} (read : Node → Read α) (n : Node) : Read (List α) :=
  n.readItems.bind (·.mapM read)

/-- The entries of a mapping; a plain scalar that is empty is an empty mapping. -/
def readEntries : Node → Read (List (Node × Node))
  | .mapping entries => .ok entries
  | .scalar .plain _ "" => .ok []
  | _ => .error .malformed

/-- A node is nothing: a plain word for nothing, or an empty plain scalar. A tag makes
something of it, unless it is the tag of nothing, which nothing else may have. -/
def isMissing : Node → Read Bool
  | .scalar .plain none text => .ok (text = "" || isNothing text.toList)
  | .scalar .plain (some tag) text =>
    if tag ≠ standardTag "null" then .ok false
    else if isNothing text.toList then .ok true
    else .error .malformed
  | _ => .ok false

/-- What a reader reads, or nothing. -/
def readOptional {α : Type} (read : Node → Read α) (n : Node) : Read (Option α) := do
  if ← n.isMissing then
    return none
  return some (← read n)

/-- An entry of a mapping whose keys are `keys`: a known key that was not met before. -/
def freshKey (keys seen : List String) (key : Node) : Read (Option String) := do
  let name ← key.readText
  if name ∉ keys then
    return none
  if name ∈ seen then
    throw .malformed
  return some name

end Yaml.Node

open Yaml.Node

/-! ### Output columns and items -/

/-- A mapping of two entries, both of which have to be there. -/
def readPair {α β : Type} (firstKey secondKey : String) (readFirst : Node → Read α)
    (readSecond : Node → Read β) :
    Option α → Option β → List (Node × Node) → Read (α × β)
  | some a, some b, [] => .ok (a, b)
  | _, _, [] => .error .malformed
  | a?, b?, (key, value) :: rest => do
    let seen := (if a?.isSome then [firstKey] else []) ++ (if b?.isSome then [secondKey] else [])
    match ← freshKey [firstKey, secondKey] seen key with
    | none => readPair firstKey secondKey readFirst readSecond a? b? rest
    | some name =>
      if name = firstKey then
        readPair firstKey secondKey readFirst readSecond (some (← readFirst value)) b? rest
      else readPair firstKey secondKey readFirst readSecond a? (some (← readSecond value)) rest

/-- The type of a column, by its name. -/
def readType (n : Node) : Read ColumnType := do
  let text ← n.readText
  match ColumnType.parse? text with
  | some t => return t
  | none => throw (.unknownType text)

/-- An output column. -/
def OutputColumn.ofNode (n : Node) : Read OutputColumn := do
  let (name, type) ← readPair "name" "type" readText readType none none (← n.readEntries)
  return ⟨name, type⟩

/-- An item with its columns. -/
def RecordItem.ofNode (n : Node) : Read RecordItem := do
  let (item, columns) ←
    readPair "item" "columns" readText (readList readText) none none (← n.readEntries)
  return ⟨item, columns⟩

/-! ### Records -/

namespace Record

/-- The keys of a record. -/
def keys : List String :=
  ["version", "root_id", "filter_mode", "merge_mode", "output_schema", "original_names",
    "production_paths", "individual_specs", "positional_mapping", "keep", "keep_unknown_columns",
    "unknown_column_position"]

/-- The largest version. -/
def largestVersion : Nat := Nat.pow 2 32 - 1

/-- The largest position. -/
def largestPosition : Nat := Nat.pow 2 64 - 1

/-- A record with the entry of a key. -/
def set (r : Record) (key : String) (n : Node) : Read Record := do
  match key with
  | "version" => return { r with version := ← n.readOptional (readNumber largestVersion) }
  | "root_id" => return { r with rootId := ← n.readOptional readText }
  | "filter_mode" => return { r with filterMode := ← n.readOptional readText }
  | "merge_mode" => return { r with mergeMode := ← n.readOptional readText }
  | "output_schema" =>
    return { r with outputSchema := ← n.readOptional (readList OutputColumn.ofNode) }
  | "original_names" => return { r with rawNames := ← n.readOptional (readList readText) }
  | "production_paths" => return { r with productionPaths := ← n.readOptional (readList readText) }
  | "individual_specs" =>
    return { r with individualSpecs := ← n.readOptional (readList RecordItem.ofNode) }
  | "positional_mapping" =>
    let read := readList (readNumber largestPosition)
    return { r with positionalMapping := ← n.readOptional read }
  | "keep" => return { r with keep := ← n.readOptional (readList readTruth) }
  | "keep_unknown_columns" =>
    return { r with keepUnknownColumns := ← n.readOptional readTruth }
  | "unknown_column_position" =>
    return { r with unknownColumnPosition := ← n.readOptional (readNumber largestPosition) }
  | _ => return r

/-- The record of the entries of a mapping. -/
def ofEntries (r : Record) (seen : List String) : List (Node × Node) → Read Record
  | [] => .ok r
  | (key, value) :: rest => do
    match ← freshKey keys seen key with
    | none => ofEntries r seen rest
    | some name => ofEntries (← r.set name value) (name :: seen) rest

/-- **The record of a node.** -/
def ofNode (n : Node) : Read Record := do
  ofEntries {} [] (← n.readEntries)

/-- **The record of a document.** -/
def ofDocument (d : Document) : Read Record :=
  match ofNode d.root with
  | .error e => .error e
  | .ok r => if d.sound then .ok r else .error .malformed

/-- **The record of the text of a document.** -/
def ofText (text : String) : Read Record :=
  ofDocument (Document.ofText text.toList)

/-- **The record of the bytes of a document,** which are UTF-8. -/
def ofBytes (bytes : List UInt8) : Read Record :=
  match Utf8.decode? bytes with
  | some text => ofDocument (Document.ofText text)
  | none => .error .malformed

end Record

end OneTable
