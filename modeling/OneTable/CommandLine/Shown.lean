import OneTable.CommandLine.Run

/-!
# What a user sees

A run of the program ends with a code: zero when all went well, one when a command failed,
and two when the arguments are no command.

* `OneTable.CommandLine.Stop.code`, `OneTable.CommandLine.Stop.text` – when no command is
  run;
* `OneTable.CommandLine.Outcome.code`, `OneTable.CommandLine.Outcome.complaint?` – when one
  is.
-/

namespace OneTable.CommandLine

/-- The name of the program. -/
def programName : String := "csv-unify"

/-- The version of the program. -/
def programVersion : String := "0.1.0"

/-- How the program is used. -/
def usage : String :=
  String.intercalate "\n"
    ["Usage: " ++ programName ++ " <COMMAND>",
      "",
      "Commands:",
      "  scan       -i FILE... -o CONFIG [--root ROOT] [--intersection]",
      "             [--drop-unknown-columns]",
      "  reconcile  -c CONFIG -i FILE... [-o CONFIG]",
      "  read       -i FILE... [-c CONFIG] [--root ROOT] [--intersection] [-o FILE]",
      "             [--output-delimiter CHAR]",
      "  columns    -c CONFIG [--json]",
      "",
      "Options for files: [--sample-rows ROWS] [--delimiter CHAR] [--input-encoding LABEL]",
      ""]

/-- The code a run without a command ends with. -/
def Stop.code : Stop → Nat
  | help => 0
  | version => 0
  | misuse => 2

/-- What is printed when no command is run. -/
def Stop.text : Stop → String
  | help => usage
  | version => programName ++ " " ++ programVersion ++ "\n"
  | misuse => ""

/-- The code a run ends with. -/
def Outcome.code (o : Outcome) : Nat :=
  if o.failure.isSome then 1 else 0

/-- What is said about a failure. -/
def complaint (line : String) : String := "error: " ++ line

/-- What is said when a command fails. -/
def Outcome.complaint? (o : Outcome) : Option String :=
  o.failure.map fun failure => complaint failure.line

end OneTable.CommandLine
