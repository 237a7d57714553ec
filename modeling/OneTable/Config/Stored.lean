import OneTable.Record.Decode
import OneTable.Record.Read
import OneTable.Record.Written

/-!
# Stored configurations

A configuration is stored as the document of its record, and it is loaded by reading the
document and decoding the record. A record of an older version may not name the types of
all columns; those are given a fallback type.

* `OneTable.Config.document` – the document of a configuration;
* `OneTable.Config.ofDocument`, `OneTable.Config.ofBytes` – the configuration of a
  document.
-/

namespace OneTable.Config

/-- **The document of a configuration.** -/
def document (c : Config) : String :=
  (Record.ofConfig c).text

/-- The configuration of a record that was read. -/
def ofRead (record : Except DocumentFault Record) (fallback : ColumnType) : Except Fault Config :=
  match record with
  | .error e => .error (.invalidConfig (.document e))
  | .ok r => r.decode fallback

/-- **The configuration of a document's text.** -/
def ofDocument (text : String) (fallback : ColumnType) : Except Fault Config :=
  ofRead (Record.ofText text) fallback

/-- **The configuration of a document's bytes.** -/
def ofBytes (bytes : List UInt8) (fallback : ColumnType) : Except Fault Config :=
  ofRead (Record.ofBytes bytes) fallback

end OneTable.Config
