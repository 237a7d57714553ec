import OneTable.RawSpec
import OneTable.Source.Basic

/-!
# Scanning items

To scan items is to ask for the columns of each, one after the other. Who is asked need
not answer in the same way every time: a file may change between two scans of it. A scan
takes time, so it can be cancelled: before every item and once more after the last one
it is asked whether to go on. A token may be cancelled while an item is being scanned,
and then this item is still finished.

* `OneTable.Scanner` – who is asked for the columns of items;
* `OneTable.Watch` – a token, and when it is cancelled;
* `OneTable.Scanner.scan`, `OneTable.scanItems` – the scan of items.
-/

namespace OneTable

/-- **Who is asked for the columns of items.** The answer may depend on the number of
scans that were made before. -/
abbrev Scanner := Nat → String → Except Trace TableSpec

/-- A source answers in the same way every time. -/
def Source.scanner (source : Source) : Scanner :=
  fun _ => source.columns

/-- A token that cancels scans, seen together with the scans that are made. -/
structure Watch where
  /-- How many scans of an item were made. -/
  scans : Nat := 0
  cancelled : Bool := false
  /-- The scan in the middle of which the token is cancelled. -/
  due : Option Nat := none
deriving DecidableEq

namespace Watch

/-- After a scan of an item. -/
def step (w : Watch) : Watch :=
  { w with scans := w.scans + 1, cancelled := w.cancelled || w.due == some (w.scans + 1) }

/-- After some scans of items. -/
def steps (w : Watch) : Nat → Watch
  | 0 => w
  | n + 1 => (w.step).steps n

/-- After the token was cancelled. -/
def cancel (w : Watch) : Watch :=
  { w with cancelled := true }

end Watch

/-- Scans further items. -/
def scanMore (scanner : Scanner) (found : Items) : List String → Watch → Except Fault Items × Watch
  | [], w => (if w.cancelled then .error .cancelled else .ok found, w)
  | item :: rest, w =>
    if w.cancelled then (.error .cancelled, w)
    else
      match scanner w.scans item with
      | .error trace => (.error (.scan item trace), w.step)
      | .ok spec => scanMore scanner (found.insert item spec) rest w.step

/-- **Scans items.** Of an item that is listed twice the later scan counts. -/
def Scanner.scan (scanner : Scanner) (items : List String) (w : Watch) :
    Except Fault Items × Watch :=
  scanMore scanner Items.empty items w

/-- Scans items of a source. -/
def scanItems (source : Source) (items : List String) (w : Watch) : Except Fault Items × Watch :=
  source.scanner.scan items w

end OneTable
