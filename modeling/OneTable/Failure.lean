import OneTable.Fault

/-!
# Failures, and what was being done

Whoever works with files and options meets failures that are no fault of the tables: a
file that is not there, an option that makes no sense. A failure is told from the
outside in, and at its end there is either a fault of the tables or a plain trace.

* `OneTable.Failure` – the failures, with `OneTable.Failure.line`;
* `OneTable.Failure.inside` – a failure, seen from one step further out.
-/

namespace OneTable

/-- A failure of some work. -/
inductive Failure
  /-- A fault of the tables, and what was being done, the outermost first. -/
  | fault (doing : List String) (cause : Fault)
  /-- Anything else. -/
  | trace (cause : Trace)
deriving DecidableEq

namespace Failure

/-- A fault alone. -/
def ofFault (cause : Fault) : Failure := .fault [] cause

/-- A plain text. -/
def ofText (text : String) : Failure := .trace (Trace.ofText text)

/-- **The same failure, seen from one step further out.** -/
def inside (text : String) : Failure → Failure
  | fault doing cause => .fault (text :: doing) cause
  | trace cause => .trace (cause.inside text)

/-- All texts, the outermost first. -/
def texts : Failure → List String
  | fault doing cause => doing ++ cause.trace.texts
  | trace cause => cause.texts

/-- All texts in one line. -/
def line (f : Failure) : String := String.intercalate ": " f.texts

end Failure

end OneTable
