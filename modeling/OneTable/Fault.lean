import OneTable.FilterMode
import OneTable.Value.Cell

/-!
# What can go wrong

Every failure of the library is a cause with its data, and its wording is a function
of the cause. A source of rows and a sink of rows belong to the caller, so what they
report is a *trace*: a text and, behind it, the texts of what led to it.

* `OneTable.Trace` – what a source or a sink reports;
* `OneTable.DocumentFault`, `OneTable.ConfigFault` – why a document or a configuration
  is not accepted;
* `OneTable.Fault` – every failure, with `OneTable.Fault.message` and
  `OneTable.Fault.causes`.
-/

namespace OneTable

/-! ### Traces -/

/-- A failure told from the outside in: what was being done, then what went wrong
there, and so on. -/
structure Trace where
  text : String
  causes : List String
deriving DecidableEq

namespace Trace

/-- A failure without anything behind it. -/
def ofText (text : String) : Trace := ⟨text, []⟩

/-- The same failure, seen from one step further out. -/
def inside (t : Trace) (text : String) : Trace := ⟨text, t.text :: t.causes⟩

/-- All texts, the outermost first. -/
def texts (t : Trace) : List String := t.text :: t.causes

/-- All texts in one line. -/
def line (t : Trace) : String := String.intercalate ": " t.texts

end Trace

/-! ### Documents and configurations -/

/-- Why the text of a document is no record. -/
inductive DocumentFault
  /-- It is no document of the notation, or some entry has the wrong shape. -/
  | malformed
  /-- It names a column type that there is not. -/
  | unknownType (name : String)
deriving DecidableEq

/-- The wording of a fault of a document. -/
def DocumentFault.message : DocumentFault → String
  | malformed => "the document is malformed"
  | unknownType name => ColumnType.unknownMessage name

/-- A list of a drafted configuration that has one entry for every union column. -/
inductive AlignedList
  | schema
  | paths
  | names
deriving DecidableEq

/-- What such a list is called. -/
def AlignedList.label : AlignedList → String
  | schema => "output schema"
  | paths => "conversion paths"
  | names => "original names"

/-- Why a persisted or a drafted configuration is not accepted. -/
inductive ConfigFault
  | document (cause : DocumentFault)
  | missing (key : String)
  | unsupportedVersion (version : Nat)
  | unknownFilterMode (word : String)
  | unequalLengths (schema names paths : Nat)
  | strayColumn (name : String)
  | pathlessColumn (name item : String)
  | entryCount (list : AlignedList) (found expected : Nat)
  | wrongName (found : String) (place : Nat) (expected : String)
  | wrongSource (converter name : String) (type : ColumnType)
  | keepCount (found expected : Nat)
  | noPermutation (order : List Nat) (count : Nat)
deriving DecidableEq

/-- The wording of a fault of a configuration. -/
def ConfigFault.message : ConfigFault → String
  | document cause => cause.message
  | missing key => s!"missing '{key}'"
  | unsupportedVersion version => s!"unsupported config version {version}"
  | unknownFilterMode word => FilterMode.unknownMessage word
  | unequalLengths schema names paths =>
    s!"output_schema ({schema}), original_names ({names}) and production_paths ({paths})" ++
      " differ in length"
  | strayColumn name => s!"column '{name}' is not part of any item spec"
  | pathlessColumn name item => s!"column '{name}' of item '{item}' has no conversion path"
  | entryCount list found expected =>
    list.label ++ s!" has {found} entries but the item specs define {expected} column(s)"
  | wrongName found place expected =>
    s!"original name '{found}' at index {place} does not match column '{expected}' of the item" ++
      " specs"
  | wrongSource converter name type =>
    s!"conversion path '{converter}' does not accept column '{name}' of type " ++ type.name
  | keepCount found expected =>
    s!"keep flags have {found} entries but the item specs define {expected} column(s)"
  | noPermutation order count =>
    "positional mapping [" ++ String.intercalate ", " (order.map toString) ++
      s!"] is not a permutation of 0..{count}"

/-! ### All failures -/

/-- Every failure of the library. -/
inductive Fault
  | emptySourceGroup
  | emptyIntersection
  | invalidConfig (cause : ConfigFault)
  | unknownPath (converter : String)
  | duplicateOutputName (name : String)
  | unknownColumn (name : String)
  | invalidPath (column : String) (type : ColumnType) (converter : String)
  | cancelled
  | scan (item : String) (cause : Trace)
  | output (cause : Trace)
  | conversion (column value converter : String) (cause : CellFault)
deriving DecidableEq

namespace Fault

/-- The wording of a failure. -/
def message : Fault → String
  | emptySourceGroup => "source group is empty; at least one item is required"
  | emptyIntersection =>
    "sources have no column in common; intersection filter mode is not possible"
  | invalidConfig cause => "invalid persisted table spec config: " ++ cause.message
  | unknownPath converter => s!"unknown conversion path '{converter}'"
  | duplicateOutputName name => s!"duplicate output column name '{name}'"
  | unknownColumn name => s!"column '{name}' is not part of the configured schema"
  | invalidPath column type converter =>
    s!"conversion path '{converter}' cannot be applied to '{column}' of type " ++ type.name
  | cancelled => "scan cancelled"
  | scan item cause => s!"failed to read item '{item}': " ++ cause.text
  | output cause => "failed to write output: " ++ cause.text
  | conversion column value converter cause =>
    s!"column '{column}': cannot convert '{value}' via {converter}: " ++ cause.message

/-- The wordings of what lies behind a failure, the nearest first. A failure that
quotes its nearest cause lists it all the same. -/
def causes : Fault → List String
  | scan _ cause => cause.texts
  | output cause => cause.texts
  | conversion _ _ _ cause => cause.message :: cause.causes
  | _ => []

/-- A failure as a trace. -/
def trace (f : Fault) : Trace := ⟨f.message, f.causes⟩

end Fault

end OneTable
