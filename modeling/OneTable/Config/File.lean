import OneTable.Config.Stored
import OneTable.Encoding.Utf8
import OneTable.Failure
import OneTable.Folder
import OneTable.Text.Shown

/-!
# Configurations in files

A configuration is kept in a file of a folder, as its document.

* `OneTable.Config.load` – the configuration in a file;
* `OneTable.Config.save` – the folder with a configuration in a file.
-/

namespace OneTable.Config

/-- What is done to a file, with its path. -/
def doing (what path : String) : String :=
  what ++ " config file " ++ Text.shown path

/-- The record in the bytes of a file. A folder can be opened, but there is no document
in it. -/
def recordIn (folder : Folder) (path : String) : Except Failure Record :=
  let document (record : Except DocumentFault Record) : Except Failure Record :=
    record.mapError fun e => .fault [doing "Parsing" path] (.invalidConfig (.document e))
  match folder.read path with
  | .ok bytes => document (Record.ofBytes bytes)
  | .error .isFolder => document (.error .malformed)
  | .error e => .error ((Failure.ofText e.message).inside (doing "Opening" path))

/-- **The configuration in a file.** -/
def load (folder : Folder) (path : String) (fallback : ColumnType) : Except Failure Config :=
  match recordIn folder path with
  | .error e => .error e
  | .ok record => (record.decode fallback).mapError (.fault [doing "Loading" path])

/-- **Keeps a configuration in a file.** -/
def save (c : Config) (folder : Folder) (path : String) : Except Failure Folder :=
  (folder.write path (Utf8.encode c.document.toList)).mapError fun e =>
    (Failure.ofText e.message).inside (doing "Writing" path)

end OneTable.Config
