/-!
# Tokens of documents

A document is first cut into tokens. Indentation becomes tokens of its own: a block
begins where a line is indented further than the block around it, and ends where a line
is indented less.

* `OneTable.Yaml.Token` – the tokens;
* `OneTable.Yaml.Tokens` – the tokens of a text, up to its end or up to a fault.
-/

namespace OneTable.Yaml

/-- How a scalar was written, as far as it matters to a reader. -/
inductive ScalarKind
  | plain
  | quoted
  | literal
  | folded
deriving DecidableEq

/-- A token of a document. -/
inductive Token
  /-- The version that a document asks for. -/
  | version (major minor : Nat)
  /-- A handle, and what it stands for in tags. -/
  | handle (name meaning : String)
  | documentStart
  | documentEnd
  | blockList
  | blockMapping
  | blockEnd
  | openList
  | closeList
  | openMapping
  | closeMapping
  /-- The dash before an entry of a list. -/
  | dash
  | comma
  /-- What follows is a key. -/
  | key
  /-- What follows is the value of a key. -/
  | value
  /-- A node that was given a name before. -/
  | reference (name : String)
  | anchor (name : String)
  | tag (handle suffix : String)
  | scalar (kind : ScalarKind) (text : List Char)
  /-- The end of the text. -/
  | finish
deriving DecidableEq

/-- The tokens of a text. -/
structure Tokens where
  list : List Token
  /-- The text was cut up to its end. -/
  whole : Bool

end OneTable.Yaml
