/-!
# Folders of files

All files that are read and written lie in one folder, possibly in folders inside it. A
folder is a value: writing gives another folder, and reading a file that cannot be read
gives the fault and its wording.

A path is followed name by name. Every name but the last has to lead to a folder, and a
path that ends in a slash has to lead to one altogether.

* `OneTable.Folder` – the files and the folders inside;
* `OneTable.Folder.read`, `OneTable.Folder.write` – files by their paths;
* `OneTable.FileFault` – why a file cannot be read or written.
-/

namespace OneTable

/-- Why a file cannot be read or written. -/
inductive FileFault
  | missing
  | notFolder
  | isFolder
  | longName
  | zeroCharacter
deriving DecidableEq

/-- The wording of a fault. -/
def FileFault.message : FileFault → String
  | missing => "No such file or directory (os error 2)"
  | notFolder => "Not a directory (os error 20)"
  | isFolder => "Is a directory (os error 21)"
  | longName => "File name too long (os error 36)"
  | zeroCharacter => "file name contained an unexpected NUL byte"

/-- A folder of files. Places inside are lists of names. -/
structure Folder where
  files : List (List String × List UInt8) := []
  folders : List (List String) := []

namespace Folder

/-! ### Places -/

/-- A place outside, above the folder: nothing is known about the files there. -/
def isAbove (place : List String) : Bool :=
  place.all (· == "..") || place == ["/"]

/-- A place is a folder. -/
def isFolder (f : Folder) (place : List String) : Bool :=
  isAbove place || f.folders.contains place

/-- The bytes of the file at a place. -/
def bytes? (f : Folder) (place : List String) : Option (List UInt8) :=
  (f.files.find? fun e => e.1 = place).map Prod.snd

/-- The place a name leads to. -/
def enter (place : List String) (name : String) : List String :=
  if name = "" ∨ name = "." then place
  else if name = ".." then if isAbove place then place ++ [".."] else place.dropLast
  else place ++ [name]

/-- The most bytes a name may have. -/
def longestName : Nat := 255

/-- Follows names; the place of the last one may hold anything or nothing. -/
def follow (f : Folder) (place : List String) : List String → Except FileFault (List String)
  | [] => .ok place
  | name :: rest =>
    if longestName < name.utf8ByteSize then .error .longName
    else
      let next := enter place name
      if rest = [] ∨ f.isFolder next then follow f next rest
      else if (f.bytes? next).isSome then .error .notFolder
      else .error .missing

/-- The names in a path. -/
def names (path : String) : List String :=
  (path.toList.splitOnP (· == '/')).map String.ofList

/-- **The place of a path.** -/
def locate (f : Folder) (path : String) : Except FileFault (List String) :=
  if path = "" then .error .missing
  else if path.toList.contains '\x00' then .error .zeroCharacter
  else
    match names path with
    | "" :: rest => f.follow ["/"] rest
    | ns => f.follow [] ns

/-! ### Files -/

/-- **The bytes of the file of a path.** -/
def read (f : Folder) (path : String) : Except FileFault (List UInt8) :=
  match f.locate path with
  | .error e => .error e
  | .ok place =>
    match f.bytes? place with
    | some bytes => .ok bytes
    | none => if f.isFolder place then .error .isFolder else .error .missing

/-- The file at a place, replaced where it stands. -/
def setFile (place : List String) (bytes : List UInt8) :
    List (List String × List UInt8) → List (List String × List UInt8)
  | [] => [(place, bytes)]
  | (p, b) :: rest =>
    if p = place then (place, bytes) :: rest else (p, b) :: setFile place bytes rest

/-- The folder with bytes at a place. -/
def put (f : Folder) (place : List String) (bytes : List UInt8) : Folder :=
  { f with files := setFile place bytes f.files }

/-- The place where the file of a path is or will be. -/
def target (f : Folder) (path : String) : Except FileFault (List String) :=
  match f.locate path with
  | .error e => .error e
  | .ok place =>
    if f.isFolder place ∨ (names path).getLast? = some "" then .error .isFolder else .ok place

/-- **Writes the file of a path,** in place of the one that was there. -/
def write (f : Folder) (path : String) (bytes : List UInt8) : Except FileFault Folder :=
  (f.target path).map fun place => f.put place bytes

/-- The folder with the folder of a place. -/
def withFolder (f : Folder) (place : List String) : Folder :=
  if f.isFolder place then f else { f with folders := f.folders ++ [place] }

/-- The place of a path, whatever there is on the way. -/
def placeOf (path : String) : List String :=
  match names path with
  | "" :: rest => rest.foldl enter ["/"]
  | ns => ns.foldl enter []

/-- The folder with the file of a path, and with the folders the path leads through. -/
def withFile (f : Folder) (path : String) (bytes : List UInt8) : Folder :=
  let place := placeOf path
  (((List.range place.length).map place.take).foldl withFolder f).put place bytes

/-- The folder without the file of a path. -/
def erase (f : Folder) (path : String) : Folder :=
  { f with files := f.files.filter fun e => e.1 ≠ placeOf path }

end Folder

end OneTable
