import OneTable.Config.Basic

/-!
# Persisted records

A record is a configuration as a document holds it. Every entry may be missing, since
documents of several versions are read into the same type; what has to be there is
decided when the record is decoded. Of the items only names are kept: the types of
their columns follow from the conversion paths.

* `OneTable.Record` – the record;
* `OneTable.Record.ofConfig` – the record of a configuration, in the current version.
-/

namespace OneTable

/-- The names of the columns of an item. -/
structure RecordItem where
  item : String
  columns : List String
deriving DecidableEq

/-- A configuration as a document holds it. -/
structure Record where
  version : Option Nat := none
  rootId : Option String := none
  filterMode : Option String := none
  mergeMode : Option String := none
  outputSchema : Option (List OutputColumn) := none
  rawNames : Option (List String) := none
  productionPaths : Option (List String) := none
  individualSpecs : Option (List RecordItem) := none
  positionalMapping : Option (List Nat) := none
  keep : Option (List Bool) := none
  keepUnknownColumns : Option Bool := none
  unknownColumnPosition : Option Nat := none
deriving DecidableEq

namespace Record

/-- The version that is written. -/
def currentVersion : Nat := 2

/-- The version of documents that name none. -/
def legacyVersion : Nat := 1

/-- **The record of a configuration.** -/
def ofConfig (c : Config) : Record where
  version := some currentVersion
  rootId := some c.rootId
  filterMode := some c.mode.name
  outputSchema := some c.schema
  rawNames := some c.rawNames
  productionPaths := some (c.paths.map ConversionPath.converter)
  individualSpecs := some (c.items.entries.map fun e => ⟨e.1, e.2.names⟩)
  positionalMapping := some c.order
  keep := some c.keepFlags
  keepUnknownColumns := some c.keepUnknown
  unknownColumnPosition := some c.anchor

end Record

end OneTable
