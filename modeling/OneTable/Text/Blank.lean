/-!
# Blank characters and trimming

A cell, a header and the name of a type are all read without the blanks around
them. *Blank* is the Unicode property `White_Space`: the ASCII blanks, the
no-break space, the typographic spaces and the line and paragraph separators.

* `OneTable.Text.isBlank` – the property;
* `OneTable.Text.trimStart`, `OneTable.Text.trimEnd`, `OneTable.Text.trim` –
  characters without the blanks at one end or at both;
* `OneTable.Text.trimmed` – the same on strings.
-/

namespace OneTable.Text

/-- **The Unicode property `White_Space`.** -/
def isBlank (c : Char) : Bool :=
  let n := c.toNat
  (0x09 ≤ n && n ≤ 0x0D) || n == 0x20 || n == 0x85 || n == 0xA0 || n == 0x1680 ||
    (0x2000 ≤ n && n ≤ 0x200A) || n == 0x2028 || n == 0x2029 || n == 0x202F || n == 0x205F ||
    n == 0x3000

/-! ### Trimming lists of characters -/

/-- The characters from the first one that is not blank. -/
def trimStart (cs : List Char) : List Char :=
  cs.dropWhile isBlank

/-- The characters up to the last one that is not blank. -/
def trimEnd (cs : List Char) : List Char :=
  (cs.reverse.dropWhile isBlank).reverse

/-- The characters without the blanks at both ends. -/
def trim (cs : List Char) : List Char :=
  trimEnd (trimStart cs)

theorem trimStart_cons_of_blank {c : Char} {cs : List Char} (h : isBlank c = true) :
    trimStart (c :: cs) = trimStart cs := by
  simp [trimStart, h]

theorem trimStart_cons_of_not_blank {c : Char} {cs : List Char} (h : isBlank c = false) :
    trimStart (c :: cs) = c :: cs := by
  simp [trimStart, h]

/-! ### Trimming strings -/

/-- A text without the blanks at both ends. -/
def trimmed (s : String) : String :=
  String.ofList (trim s.toList)

@[simp]
theorem toList_trimmed (s : String) : (trimmed s).toList = trim s.toList := by
  simp [trimmed]

/-- A text in lower case, where only the letters `A` to `Z` have one. -/
def lower (cs : List Char) : List Char :=
  cs.map Char.toLower

/-- Two texts are the same up to the case of the letters `A` to `Z`. -/
def sameIgnoringCase (s t : String) : Bool :=
  lower s.toList == lower t.toList

end OneTable.Text
