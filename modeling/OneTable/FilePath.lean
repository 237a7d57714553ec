/-!
# Paths of files

A path is a text. What it names is decided by its components: the parts between
slashes, without empty parts and without parts that stay in place – only a `.` at the
very front counts.

* `OneTable.FilePath.components` – the components;
* `OneTable.FilePath.fileName?`, `OneTable.FilePath.extension?` – the name of the file
  and what follows its last point;
* `OneTable.FilePath.isDash` – the path that stands for the standard streams.
-/

namespace OneTable.FilePath

/-- The parts of a text between slashes. -/
def parts (path : String) : List String :=
  (path.toList.splitOnP (· == '/')).map String.ofList

/-- **The components of a path.** The root is the component `/`. -/
def components (path : String) : List String :=
  match parts path with
  | "" :: rest => if rest = [] then [] else "/" :: rest.filter fun p => p ≠ "" ∧ p ≠ "."
  | "." :: rest => "." :: rest.filter fun p => p ≠ "" ∧ p ≠ "."
  | ps => ps.filter fun p => p ≠ "" ∧ p ≠ "."

/-- The name of the file: the last component, unless it leads elsewhere. -/
def fileName? (path : String) : Option String :=
  match (components path).getLast? with
  | some name => if name = ".." ∨ name = "." ∨ name = "/" then none else some name
  | none => none

/-- **What follows the last point of the file's name.** A point at the front of the name
starts no extension. -/
def extension? (path : String) : Option String :=
  match fileName? path with
  | none => none
  | some name =>
    let reversed := name.toList.reverse
    let last := reversed.takeWhile (· ≠ '.')
    match reversed.dropWhile (· ≠ '.') with
    | [] => none
    | _ :: [] => none
    | _ :: _ => some (String.ofList last.reverse)

/-- **The path `-`,** which stands for the standard streams. -/
def isDash (path : String) : Bool :=
  components path = ["-"]

end OneTable.FilePath
