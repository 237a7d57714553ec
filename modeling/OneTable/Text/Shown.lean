import OneTable.Text.Hidden

/-!
# Texts shown in messages

A message shows a text that may hold anything, such as a path, between double quotes and
with every character that would be misread escaped.

* `OneTable.Text.shown` – a text as a message shows it.
-/

namespace OneTable.Text

/-- A number in base sixteen, without leading zeros. -/
def hexText (n : Nat) : List Char :=
  Nat.toDigits 16 n

/-- A character as a message shows it. -/
def shownChar (c : Char) : List Char :=
  match c with
  | '\x00' => ['\\', '0']
  | '\t' => ['\\', 't']
  | '\n' => ['\\', 'n']
  | '\r' => ['\\', 'r']
  | '"' => ['\\', '"']
  | '\'' => ['\\', '\'']
  | '\\' => ['\\', '\\']
  | c => if isHidden c then '\\' :: 'u' :: '\x7b' :: hexText c.toNat ++ ['\x7d'] else [c]

/-- **A text as a message shows it.** -/
def shown (s : String) : String :=
  String.ofList ('"' :: s.toList.flatMap shownChar ++ ['"'])

end OneTable.Text
