import OneTable.CommandLine.Command
import OneTable.Config.File
import OneTable.Json.Value
import OneTable.Listing
import OneTable.Model.Edit
import OneTable.Reader.File

/-!
# Running commands

A command takes a folder to another one, and it may print something and fail. A
configuration is complete when it is saved. A table is read when what was stored is
settled, and its file is emptied before the reader looks for the configuration of the
files.

* `OneTable.CommandLine.Outcome` – what comes of a command;
* `OneTable.CommandLine.Command.run` – runs a command.
-/

namespace OneTable.CommandLine

/-- What comes of a command. -/
structure Outcome where
  folder : Folder
  /-- What is printed. -/
  output : List UInt8 := []
  failure : Option Failure := none

/-! ### Files that are read -/

namespace InputOptions

/-- How the files are read. The encoding may be unknown. -/
def options (o : InputOptions) : Except Failure CsvOptions :=
  match Encoding.ofLabel o.encoding with
  | .error message => .error (Failure.ofText message)
  | .ok encoding => .ok ⟨o.delimiter, encoding, o.sampleRows⟩

/-- The items with their columns. -/
def scanned (o : InputOptions) (options : CsvOptions) (folder : Folder) : Except Failure Items :=
  (scanItems (options.source folder) o.items {}).1.mapError Failure.ofFault

end InputOptions

/-! ### Configurations -/

/-- The type of columns whose types an old configuration does not name. -/
def fallbackType : ColumnType := .string

/-- **The configuration that `scan` makes.** -/
def Scan.result (c : Scan) (folder : Folder) : Except Failure Config := do
  let options ← c.input.options
  let items ← c.input.scanned options folder
  Except.mapError Failure.ofFault do
    let model ← Model.fresh (← Config.rawSpec items) c.mode
    (if c.dropUnknown then model.setKeepUnknown false else model).toConfig c.root items

/-- **The configuration that `reconcile` makes.** One that was made for the same files stays
as it is, and the files are not looked at. -/
def Reconcile.result (c : Reconcile) (folder : Folder) : Except Failure Config := do
  let stored ← Config.load folder c.config fallbackType
  if stored.isFor stored.rootId c.input.items then
    return stored
  let options ← c.input.options
  let items ← c.input.scanned options folder
  (stored.reconcile items).mapError Failure.ofFault

/-- Saves the configuration that a command makes. -/
def saved (result : Except Failure Config) (folder : Folder) (path : String) : Outcome :=
  match result with
  | .error failure => { folder := folder, failure := some failure }
  | .ok config =>
    match config.save folder path with
    | .ok folder => { folder := folder }
    | .error failure =>
      { folder := folder
        failure := some (failure.inside ("Writing configuration to " ++ Text.shown path)) }

/-! ### The table -/

/-- What `read` has settled before it writes anything. -/
structure Settled where
  options : CsvOptions
  root : String
  reader : Reader

namespace Read

/-- The stored configuration, if there is one to be used. -/
def stored (c : Read) (folder : Folder) : Except Failure (Option Config) :=
  match c.config with
  | none => .ok none
  | some path => (Config.load folder path fallbackType).map some

/-- The root: the one that is named, or else that of the stored configuration. -/
def rootFor (c : Read) (stored : Option Config) : String :=
  c.root.getD ((stored.map Config.rootId).getD standardRoot)

/-- The configuration that is used: the stored one of the same root is carried over to the
files if it was made for others. -/
def carried (c : Read) (options : CsvOptions) (folder : Folder) (root : String)
    (stored : Config) : Except Failure Config := do
  if stored.rootId = root ∧ !stored.isFor root c.input.items then
    let items ← c.input.scanned options folder
    (stored.reconcile items).mapError Failure.ofFault
  else
    return stored

/-- **What `read` has settled before it writes anything.** -/
def settled (c : Read) (folder : Folder) : Except Failure Settled := do
  let options ← c.input.options
  let stored ← c.stored folder
  let root := c.rootFor stored
  match stored with
  | none => return ⟨options, root, { mode := c.mode }⟩
  | some config =>
    let config ← c.carried options folder root config
    return ⟨options, root, { cached := some config, mode := c.mode }⟩

/-- The failure of a reading. -/
def failureOf : Except Fault Nat → Option Failure
  | .ok _ => none
  | .error fault => some (Failure.ofFault fault)

/-- **Writes the unified table** to a file or prints it. -/
def run (c : Read) (folder : Folder) : Outcome :=
  match c.settled folder with
  | .error failure => { folder := folder, failure := some failure }
  | .ok ⟨options, root, reader⟩ =>
    let delimiter := Delimiter.ofOutput c.output c.outputDelimiter
    match c.file with
    | none =>
      let (result, written, _) :=
        reader.readInto (options.source folder) root c.input.items (Sink.delimited delimiter) {}
      { folder := folder, output := written.bytes, failure := failureOf result }
    | some path =>
      match reader.readIntoFile options.source folder root c.input.items path delimiter with
      | .error failure => { folder := folder, failure := some failure }
      | .ok r => { folder := r.folder, failure := failureOf r.result }

end Read

/-! ### Columns -/

/-- **The list of the columns of a configuration.** -/
def Columns.result (c : Columns) (folder : Folder) : Except Failure String := do
  let config ← Config.load folder c.config fallbackType
  Except.mapError Failure.ofFault <|
    if c.json then
      config.outputSchema.map fun columns =>
        (Json.list (columns.map OutputColumn.toJson)).pretty ++ "\n"
    else Listing.ofConfig config

/-! ### All commands -/

/-- **Runs a command.** -/
def Command.run : Command → Folder → Outcome
  | scan c, folder => saved (c.result folder) folder c.output
  | reconcile c, folder => saved (c.result folder) folder (c.output.getD c.config)
  | read c, folder => c.run folder
  | columns c, folder =>
    match c.result folder with
    | .ok text => { folder := folder, output := Utf8.encode text.toList }
    | .error failure => { folder := folder, failure := some failure }

end OneTable.CommandLine
