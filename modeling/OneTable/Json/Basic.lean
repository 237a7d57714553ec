import OneTable.Json.Numeral
import OneTable.Json.Text

/-!
# JSON

A JSON value is a tree. A text in it may be a written one that is no text, with halves of
surrogate pairs; it does no harm where nobody looks at it.

* `OneTable.Json` – the trees;
* `OneTable.Json.compact` – a tree on one line, without blanks;
* `OneTable.Json.pretty` – a tree with one entry on a line.
-/

namespace OneTable

/-- A JSON value. -/
inductive Json
  | null
  | boolean (b : Bool)
  | number (n : Json.Numeral)
  /-- A text, if it is one. -/
  | text (s : Option String)
  | list (entries : List Json)
  /-- Keys and values, in the order in which they are written. -/
  | object (entries : List (Option String × Json))

namespace Json

/-- A text. -/
def ofText (s : String) : Json := .text (some s)

/-- An object. -/
def ofFields (fields : List (String × Json)) : Json :=
  .object (fields.map fun (key, value) => (some key, value))

/-- The written form of a text that may be none. -/
def quoted? (s : Option String) : String :=
  quoted (s.getD "")

/-! ### On one line -/

mutual

/-- **A tree on one line,** without blanks. -/
def compact : Json → String
  | null => "null"
  | boolean b => if b then "true" else "false"
  | number n => String.ofList n.text
  | text s => quoted? s
  | list entries => "[" ++ String.intercalate "," (compactAll entries) ++ "]"
  | object entries => "\x7b" ++ String.intercalate "," (compactFields entries) ++ "\x7d"

/-- The entries of a list, each on one line. -/
def compactAll : List Json → List String
  | [] => []
  | entry :: rest => compact entry :: compactAll rest

/-- The entries of an object, each on one line. -/
def compactFields : List (Option String × Json) → List String
  | [] => []
  | (key, value) :: rest => (quoted? key ++ ":" ++ compact value) :: compactFields rest

end

/-! ### On many lines -/

/-- The beginning of a line at a depth. -/
def newLine (depth : Nat) : String :=
  "\n" ++ String.ofList (List.replicate (2 * depth) ' ')

/-- Entries between brackets, each on a line of its own. -/
def block (opening closing : String) (depth : Nat) : List String → String
  | [] => opening ++ closing
  | entries =>
    opening ++ newLine (depth + 1) ++ String.intercalate ("," ++ newLine (depth + 1)) entries ++
      newLine depth ++ closing

mutual

/-- A tree at a depth. -/
def prettyAt (depth : Nat) : Json → String
  | list entries => block "[" "]" depth (prettyAll (depth + 1) entries)
  | object entries => block "\x7b" "\x7d" depth (prettyFields (depth + 1) entries)
  | null => "null"
  | boolean b => if b then "true" else "false"
  | number n => String.ofList n.text
  | text s => quoted? s

/-- The entries of a list at a depth. -/
def prettyAll (depth : Nat) : List Json → List String
  | [] => []
  | entry :: rest => prettyAt depth entry :: prettyAll depth rest

/-- The entries of an object at a depth. -/
def prettyFields (depth : Nat) : List (Option String × Json) → List String
  | [] => []
  | (key, value) :: rest => (quoted? key ++ ": " ++ prettyAt depth value) :: prettyFields depth rest

end

/-- **A tree with one entry on a line.** -/
def pretty (j : Json) : String := prettyAt 0 j

end Json

end OneTable
