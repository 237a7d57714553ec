import OneTable.FilePath
import OneTable.Text.Blank

/-!
# Delimiters

The cells of a file are separated by one ASCII character. A user may name it; else it
follows from the file's extension: files of the extension `tsv` have tabs, all others
commas.

* `OneTable.Delimiter.parse` – the delimiter a user names;
* `OneTable.Delimiter.ofInput`, `OneTable.Delimiter.ofOutput` – the delimiter of a file.
-/

namespace OneTable

/-- Why a text names no delimiter. -/
inductive DelimiterFault
  | empty
  | long
  | notAscii
deriving DecidableEq

/-- The wording of a fault. -/
def DelimiterFault.message : DelimiterFault → String
  | empty => "Delimiter cannot be empty"
  | long => "Delimiter must be a single character"
  | notAscii => "Delimiter must be ASCII"

namespace Delimiter

/-- The comma. -/
def comma : UInt8 := 44

/-- The tab. -/
def tab : UInt8 := 9

/-- **The delimiter a user names:** by a word or by the character itself. -/
def parse (text : String) : Except DelimiterFault UInt8 :=
  if text = "tab" then .ok tab
  else if text = "comma" then .ok comma
  else if text = "pipe" then .ok 124
  else if text = "semicolon" then .ok 59
  else
    match text.toList with
    | [] => .error .empty
    | [c] => if c.toNat < 128 then .ok (UInt8.ofNat c.toNat) else .error .notAscii
    | _ => .error .long

/-- The delimiter of a file by its extension. -/
def ofExtension (path : String) : UInt8 :=
  match FilePath.extension? path with
  | some ext => if Text.sameIgnoringCase ext "tsv" then tab else comma
  | none => comma

/-- **The delimiter of a file that is read.** -/
def ofInput (path : String) (named : Option UInt8) : UInt8 :=
  named.getD (ofExtension path)

/-- **The delimiter of a file that is written;** without a file it is the comma. -/
def ofOutput (path : Option String) (named : Option UInt8) : UInt8 :=
  named.getD ((path.map ofExtension).getD comma)

end Delimiter

end OneTable
