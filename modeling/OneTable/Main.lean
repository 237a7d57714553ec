import OneTable.CommandLine.Shown

/-!
# The program

The program looks at the files its command names, runs the command on what it has found,
and writes the file that the command has changed.

* `main` – the program.
-/

namespace OneTable.CommandLine

/-- What the system says about a folder that is to be read as a file. -/
def folderCode : UInt32 := 21

/-- Looks at a path: at a file or at a folder there. -/
def look (folder : Folder) (path : String) : IO Folder := do
  try
    let bytes ← IO.FS.readBinFile path
    return folder.withFile path bytes.toList
  catch error =>
    match error with
    | .inappropriateType _ code _ =>
      return if code = folderCode then folder.withFolder (Folder.placeOf path) else folder
    | _ => return folder

/-- Looks at a path and at all paths that lead to it. -/
def lookAlong (folder : Folder) (path : String) : IO Folder := do
  let names := Folder.names path
  let fronts := (List.range names.length).map fun i => String.intercalate "/" (names.take (i + 1))
  (fronts.filter (· ≠ "")).foldlM look folder

/-- Writes the file of a path if it has changed. -/
def store (before after : Folder) (path : String) : IO Unit := do
  let place := Folder.placeOf path
  match after.bytes? place with
  | none => return
  | some bytes =>
    if before.bytes? place ≠ some bytes then
      IO.FS.writeBinFile path (ByteArray.mk bytes.toArray)

/-- Runs a command on the files it names. -/
def perform (command : Command) : IO UInt32 := do
  let folder ← command.paths.foldlM lookAlong {}
  let outcome := command.run folder
  match command.target? with
  | some path => store folder outcome.folder path
  | none => pure ()
  (← IO.getStdout).write (ByteArray.mk outcome.output.toArray)
  match outcome.complaint? with
  | some text => IO.eprintln text
  | none => pure ()
  return UInt32.ofNat outcome.code

end OneTable.CommandLine

open OneTable.CommandLine in
/-- The program. -/
def main (arguments : List String) : IO UInt32 := do
  match Command.ofArguments arguments with
  | .ok command => perform command
  | .error stop =>
    IO.print stop.text
    if stop = .misuse then
      IO.eprint usage
    return UInt32.ofNat stop.code
