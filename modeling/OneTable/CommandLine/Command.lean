import OneTable.CommandLine.Switch
import OneTable.Delimiter
import OneTable.Number.Decimal
import OneTable.Source.Csv

/-!
# The commands

There are four commands: `scan` makes a configuration, `reconcile` carries one over to
other files, `read` writes the unified table, and `columns` lists the columns of a
configuration.

* `OneTable.CommandLine.Command` – a command with what it was asked to do;
* `OneTable.CommandLine.Command.ofArguments` – the command in a list of arguments.
-/

namespace OneTable.CommandLine

/-! ### Values of options -/

/-- The path of a file, which is not empty. -/
def path (value : String) : Except Stop String :=
  if value = "" then .error .misuse else .ok value

/-- A number of rows, with at most 64 bits. There may be a plus in front. -/
def count (value : String) : Except Stop Nat :=
  let digits :=
    match value.toList with
    | '+' :: ds => ds
    | ds => ds
  if digits ≠ [] ∧ digits.all isDigit ∧ digitsValue digits < Nat.pow 2 64 then .ok (digitsValue digits)
  else .error .misuse

/-- A delimiter. -/
def delimiter (value : String) : Except Stop UInt8 :=
  (Delimiter.parse value).mapError fun _ => .misuse

/-- The value of an option, read in some way. -/
def readOf {α : Type} (read : String → Except Stop α) (word : String) (given : List Given) :
    Except Stop (Option α) := do
  match ← valueOf word given with
  | some value => return some (← read value)
  | none => return none

/-! ### Commands -/

/-- The files of a command and how they are read. -/
structure InputOptions where
  items : List String
  sampleRows : Nat := CsvOptions.standardSample
  delimiter : Option UInt8 := none
  /-- The label of the encoding. -/
  encoding : Option String := none
deriving DecidableEq

/-- Makes a configuration. -/
structure Scan where
  input : InputOptions
  root : String
  output : String
  mode : FilterMode
  dropUnknown : Bool
deriving DecidableEq

/-- Carries a configuration over to other files. -/
structure Reconcile where
  config : String
  input : InputOptions
  /-- Where the new configuration goes to; without a path it takes the place of the old. -/
  output : Option String
deriving DecidableEq

/-- Writes the unified table. -/
structure Read where
  input : InputOptions
  config : Option String
  root : Option String
  mode : FilterMode
  output : Option String
  outputDelimiter : Option UInt8
deriving DecidableEq

/-- The file that `read` writes; without one, or with a dash, the table is printed. -/
def Read.file (c : Read) : Option String :=
  c.output.filter fun path => !FilePath.isDash path

/-- Lists the columns of a configuration. -/
structure Columns where
  config : String
  json : Bool
deriving DecidableEq

/-- A command. -/
inductive Command
  | scan (c : Scan)
  | reconcile (c : Reconcile)
  | read (c : Read)
  | columns (c : Columns)
deriving DecidableEq

/-! ### From options to commands -/

/-- The options for the files. -/
def InputOptions.switches : List Switch :=
  [{ word := "input", letter := some 'i', takes := .many }, { word := "sample-rows" },
    { word := "delimiter" }, { word := "input-encoding" }]

/-- The files in the options, of which there has to be one. -/
def InputOptions.ofGiven (given : List Given) : Except Stop InputOptions := do
  let items ← (valuesOf "input" given).flatten.mapM path
  if items = [] then
    throw .misuse
  let sampleRows ← readOf count "sample-rows" given
  return {
    items := items
    sampleRows := sampleRows.getD CsvOptions.standardSample
    delimiter := ← readOf CommandLine.delimiter "delimiter" given
    encoding := ← valueOf "input-encoding" given }

/-- The option for the path of the output. -/
def outputSwitch : Switch := { word := "output", letter := some 'o' }

/-- The option for the path of a configuration. -/
def configSwitch : Switch := { word := "config", letter := some 'c' }

/-- The option that asks for the columns of every item only. -/
def intersectionSwitch : Switch := { word := "intersection", takes := .nothing }

/-- The mode that the options ask for. -/
def modeOf (given : List Given) : Except Stop FilterMode :=
  (isGiven intersectionSwitch.word given).map FilterMode.ofFlag

/-- The root of a group that has no other. -/
def standardRoot : String := "default"

/-- The command `scan`. -/
def Scan.ofArguments (arguments : List String) : Except Stop Scan := do
  let given ← givenIn (InputOptions.switches ++ [{ word := "root" }, outputSwitch,
    intersectionSwitch, { word := "drop-unknown-columns", takes := .nothing }]) arguments
  return {
    input := ← InputOptions.ofGiven given
    root := (← valueOf "root" given).getD standardRoot
    output := ← required (← readOf path outputSwitch.word given)
    mode := ← modeOf given
    dropUnknown := ← isGiven "drop-unknown-columns" given }

/-- The command `reconcile`. -/
def Reconcile.ofArguments (arguments : List String) : Except Stop Reconcile := do
  let given ← givenIn (InputOptions.switches ++ [configSwitch, outputSwitch]) arguments
  return {
    config := ← required (← readOf path configSwitch.word given)
    input := ← InputOptions.ofGiven given
    output := ← readOf path outputSwitch.word given }

/-- The command `read`. -/
def Read.ofArguments (arguments : List String) : Except Stop Read := do
  let given ← givenIn (InputOptions.switches ++ [configSwitch, { word := "root" },
    intersectionSwitch, outputSwitch, { word := "output-delimiter" }]) arguments
  return {
    input := ← InputOptions.ofGiven given
    config := ← readOf path configSwitch.word given
    root := ← valueOf "root" given
    mode := ← modeOf given
    output := ← readOf path outputSwitch.word given
    outputDelimiter := ← readOf delimiter "output-delimiter" given }

/-- The command `columns`. -/
def Columns.ofArguments (arguments : List String) : Except Stop Columns := do
  let given ← givenIn [configSwitch, { word := "json", takes := .nothing }] arguments
  return {
    config := ← required (← readOf path configSwitch.word given)
    json := ← isGiven "json" given }

namespace Command

/-- The names of the commands. -/
def names : List String := ["scan", "reconcile", "read", "columns"]

/-- What stands in the place of a command's name. -/
def stop (first : String) (rest : List String) : Stop :=
  match first.toList with
  | '-' :: 'V' :: _ => .version
  | '-' :: 'h' :: _ => .help
  | _ =>
    if first = "--version" then .version
    else if first = "--help" then .help
    else if first = "help" ∧ (rest = [] ∨ ∃ name ∈ "help" :: names, rest = [name]) then .help
    else .misuse

/-- **The command in a list of arguments.** -/
def ofArguments : List String → Except Stop Command
  | [] => .error .misuse
  | "scan" :: rest => (Scan.ofArguments rest).map .scan
  | "reconcile" :: rest => (Reconcile.ofArguments rest).map .reconcile
  | "read" :: rest => (Read.ofArguments rest).map .read
  | "columns" :: rest => (Columns.ofArguments rest).map .columns
  | first :: rest => .error (stop first rest)

/-! ### Paths -/

/-- The paths of the files that a command looks at. -/
def paths : Command → List String
  | scan c => c.output :: c.input.items
  | reconcile c => c.config :: c.output.toList ++ c.input.items
  | read c => c.config.toList ++ c.output.toList ++ c.input.items
  | columns c => [c.config]

/-- The path of the file that a command writes. -/
def target? : Command → Option String
  | scan c => some c.output
  | reconcile c => some (c.output.getD c.config)
  | read c => c.file
  | columns _ => none

end Command

end OneTable.CommandLine
