import OneTable.Config.Model
import OneTable.Reader.Scan
import OneTable.Reader.Sink

/-!
# Reading many tables as one

A reader keeps the configuration it used last. For the same root and the same items it
is used again, without looking at the items; for anything else the items are scanned
and their fresh configuration takes its place. A scan that fails leaves the reader
without a configuration, so that a part of a scan is never used.

* `OneTable.Reader` – the reader, with `OneTable.Reader.configBy` and
  `OneTable.Reader.configFor`;
* `OneTable.pour` – a stream into a sink;
* `OneTable.Reader.readInto` – the unified table into a sink.
-/

namespace OneTable

/-- A reader of many tables. -/
structure Reader where
  cached : Option Config := none
  /-- The filter mode of fresh configurations. -/
  mode : FilterMode := .union
  watch : Watch := {}
deriving DecidableEq

namespace Reader

/-- Scans items and keeps their fresh configuration. -/
def refresh (r : Reader) (scanner : Scanner) (root : String) (items : List String) :
    Except Fault Config × Reader :=
  let (found, watch) := scanner.scan items r.watch
  match found.bind (Config.fresh root · r.mode) with
  | .ok config => (.ok config, { r with cached := some config, watch := watch })
  | .error fault => (.error fault, { r with cached := none, watch := watch })

/-- **The configuration for items:** the one that is kept if it was made for them, and
else a fresh one. -/
def configBy (r : Reader) (scanner : Scanner) (root : String) (items : List String) :
    Except Fault Config × Reader :=
  match r.cached with
  | some config =>
    if config.isFor root items then (.ok config, r) else r.refresh scanner root items
  | none => r.refresh scanner root items

/-- The configuration for items of a source. -/
def configFor (r : Reader) (source : Source) (root : String) (items : List String) :
    Except Fault Config × Reader :=
  r.configBy source.scanner root items

end Reader

/-! ### Into a sink -/

/-- **Pours rows into a sink** up to the first fault, and tells how many it took. -/
def pour {σ : Type} (sink : Sink σ) (taken : Nat) : List StreamRow → σ → Except Fault Nat × σ
  | [], s =>
    match sink.finish s with
    | (.ok (), s) => (.ok taken, s)
    | (.error trace, s) => (.error (.output trace), s)
  | .error fault :: _, s => (.error fault, s)
  | .ok row :: rows, s =>
    match sink.push row s with
    | (.ok (), s) => pour sink (taken + 1) rows s
    | (.error trace, s) => (.error (.output trace), s)

/-- **Reads the table of a configuration into a sink.** The names of the output are
checked before the sink hears of anything. -/
def Config.readInto {σ : Type} (c : Config) (source : Source) (sink : Sink σ) (s : σ) :
    Except Fault Nat × σ :=
  match c.outputSchema with
  | .error fault => (.error fault, s)
  | .ok schema =>
    match sink.start schema s with
    | (.error trace, s) => (.error (.output trace), s)
    | (.ok (), s) => pour sink 0 (c.stream source) s

/-- **Reads the unified table of items into a sink.** -/
def Reader.readInto {σ : Type} (r : Reader) (source : Source) (root : String)
    (items : List String) (sink : Sink σ) (s : σ) : Except Fault Nat × σ × Reader :=
  match r.configFor source root items with
  | (.error fault, r) => (.error fault, s, r)
  | (.ok config, r) =>
    let (result, s) := config.readInto source sink s
    (result, s, r)

end OneTable
