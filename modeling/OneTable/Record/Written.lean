import OneTable.Record.Basic
import OneTable.Yaml.Tree

/-!
# The document of a record

The entries of a record are written in a fixed order, and an entry that is missing is
left out.

* `OneTable.Record.entries` – the entries of a record;
* `OneTable.Record.text` – the text of its document.
-/

namespace OneTable

open Yaml

/-- An output column as a mapping. -/
def OutputColumn.tree (c : OutputColumn) : Tree :=
  .mapping [("name", .text c.name), ("type", .text c.type.name)]

/-- An item as a mapping. -/
def RecordItem.tree (i : RecordItem) : Tree :=
  .mapping [("item", .text i.item), ("columns", .texts i.columns)]

namespace Record

/-- The entry of a key, if there is one. -/
def entry {α : Type} (key : String) (value : Option α) (tree : α → Tree) : List (String × Tree) :=
  match value with
  | some a => [(key, tree a)]
  | none => []

/-- **The entries of a record,** in the order of the document. -/
def entries (r : Record) : List (String × Tree) :=
  entry "version" r.version .number ++
  entry "root_id" r.rootId .text ++
  entry "filter_mode" r.filterMode .text ++
  entry "merge_mode" r.mergeMode .text ++
  entry "output_schema" r.outputSchema (fun cs => .list (cs.map OutputColumn.tree)) ++
  entry "original_names" r.rawNames .texts ++
  entry "production_paths" r.productionPaths .texts ++
  entry "individual_specs" r.individualSpecs (fun is => .list (is.map RecordItem.tree)) ++
  entry "positional_mapping" r.positionalMapping (fun ns => .list (ns.map .number)) ++
  entry "keep" r.keep (fun bs => .list (bs.map .truth)) ++
  entry "keep_unknown_columns" r.keepUnknownColumns .truth ++
  entry "unknown_column_position" r.unknownColumnPosition .number

/-- **The text of a record's document.** -/
def text (r : Record) : String :=
  Tree.document r.entries

end Record

end OneTable
