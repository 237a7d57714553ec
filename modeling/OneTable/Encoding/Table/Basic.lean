/-!
# Tables of characters

The large character sets number their characters by rows and columns. A table lists the
characters of a set in the order of these numbers. It is written down in pieces: texts, runs
of characters that follow each other in Unicode too, and gaps of numbers without a
character.

* `OneTable.CharTable` – a table, with `OneTable.CharTable.char?`;
* `OneTable.CharTable.ofPieces` – the table of some pieces.
-/

namespace OneTable

/-- A table of characters. -/
structure CharTable where
  chars : Array Char

namespace CharTable

/-- A piece of a table. -/
inductive Piece
  | text (s : String)
  | run (first : Char) (count : Nat)
  | gap (count : Nat)

/-- The mark of a number without a character. -/
def unassigned : Char := '\ufffd'

/-- The characters of a piece. -/
def Piece.chars : Piece → List Char
  | text s => s.toList
  | run first count => (List.range count).map fun i => Char.ofNat (first.toNat + i)
  | gap count => List.replicate count unassigned

/-- The table of some pieces. -/
def ofPieces (pieces : List Piece) : CharTable :=
  ⟨(pieces.flatMap Piece.chars).toArray⟩

/-- **The character of a number.** -/
def char? (t : CharTable) (number : Nat) : Option Char :=
  t.chars[number]?.filter (· ≠ unassigned)

end CharTable

end OneTable
