import OneTable.Number.Integer
import OneTable.Yaml.Written

/-!
# Documents as trees of blocks

A document is written in blocks: the entries of a mapping and of a list stand one below
the other, and the dash of a list's entries stands under the key of the list. A mapping
inside a list begins on the line of its dash.

* `OneTable.Yaml.Tree` – what a document holds;
* `OneTable.Yaml.Tree.document` – the text of a document.
-/

namespace OneTable.Yaml

/-- What a document holds. -/
inductive Tree
  /-- A text, quoted where it has to be. -/
  | text (s : String)
  /-- A number or a word, which is never quoted. -/
  | bare (s : String)
  | list (items : List Tree)
  | mapping (entries : List (String × Tree))

namespace Tree

/-- A natural number. -/
def number (n : Nat) : Tree := bare (String.ofList (decimalDigits n))

/-- A truth value. -/
def truth (b : Bool) : Tree := bare (if b then "true" else "false")

/-- A list of texts. -/
def texts (ss : List String) : Tree := list (ss.map text)

mutual

/-- A tree behind the colon of a key that is indented. -/
def afterKey (indent : Nat) : Tree → List Char
  | text s => ' ' :: written (indent + 2) s.toList
  | bare s => ' ' :: s.toList ++ ['\n']
  | list [] => " []\n".toList
  | list items => '\n' :: itemLines indent items
  | mapping [] => " \x7b\x7d\n".toList
  | mapping entries => '\n' :: entryLines (indent + 2) false entries

/-- A tree behind a dash that is indented. -/
def afterDash (indent : Nat) : Tree → List Char
  | text s => written (indent + 2) s.toList
  | bare s => s.toList ++ ['\n']
  | list [] => "[]\n".toList
  | list (item :: items) =>
    '-' :: ' ' :: afterDash (indent + 2) item ++ itemLines (indent + 2) items
  | mapping [] => "\x7b\x7d\n".toList
  | mapping entries => entryLines (indent + 2) true entries

/-- The entries of a list. -/
def itemLines (indent : Nat) : List Tree → List Char
  | [] => []
  | item :: items => spaces indent ++ '-' :: ' ' :: afterDash indent item ++ itemLines indent items

/-- The entries of a mapping, the first of which may stand on a line already begun. -/
def entryLines (indent : Nat) (begun : Bool) : List (String × Tree) → List Char
  | [] => []
  | (key, value) :: entries =>
    (if begun then [] else spaces indent) ++ key.toList ++ ':' :: afterKey indent value ++
      entryLines indent false entries

end

/-- **The text of a document** that is a mapping. -/
def document (entries : List (String × Tree)) : String :=
  String.ofList (entryLines 0 false entries)

end Tree

end OneTable.Yaml
