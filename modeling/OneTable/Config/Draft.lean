import OneTable.Config.Basic

/-!
# Drafted configurations

A draft holds the parts of a configuration as they come from a document or from a
caller, and nothing about it is certain. It becomes a configuration when every list
has one entry for each column of the raw union of its items, the names are those of
the union, every path starts at the type of its column, and no column fills two slots
of the output.

* `OneTable.Draft` – the parts;
* `OneTable.Draft.build` – the check.
-/

namespace OneTable

/-- The parts of a configuration. -/
structure Draft where
  rootId : String
  items : Items
  /-- Raw name, output column and path, one after the other. -/
  schema : List OutputColumn := []
  paths : List ConversionPath := []
  names : List String := []
  /-- Raw order when nothing is said. -/
  order : Option (List Nat) := none
  /-- Everything is kept when nothing is said. -/
  keep : Option (List Bool) := none
  mode : FilterMode := .union
  keepUnknown : Bool := true
  /-- The end when nothing is said. -/
  anchor : Option Nat := none
deriving DecidableEq

namespace Draft

/-- Puts a column behind the others. -/
def column (d : Draft) (name : String) (output : OutputColumn) (path : ConversionPath) : Draft :=
  { d with
    names := d.names ++ [name], schema := d.schema ++ [output], paths := d.paths ++ [path] }

/-! ### The checks -/

/-- A list has as many entries as the raw union. -/
def checkCount (list : AlignedList) (found expected : Nat) : Except ConfigFault Unit :=
  if found = expected then .ok () else .error (.entryCount list found expected)

/-- Names and paths fit the columns of the raw union, one after the other. -/
def checkColumns (place : Nat) :
    List Column → List String → List ConversionPath → Except ConfigFault Unit
  | c :: cs, n :: ns, p :: ps =>
    if n ≠ c.name then .error (.wrongName n place c.name)
    else if p.source ≠ c.type then .error (.wrongSource p.converter c.name c.type)
    else checkColumns (place + 1) cs ns ps
  | _, _, _ => .ok ()

/-- The order mentions places of the raw union only, and none of them twice. -/
def isOrder (count : Nat) (order : List Nat) : Bool :=
  order.all (· < count) && decide order.Nodup

/-- Settings from lists of one length. -/
def settings : List String → List OutputColumn → List ConversionPath → List Bool → List Setting
  | n :: ns, o :: os, p :: ps, k :: ks => ⟨n, o, p, k⟩ :: settings ns os ps ks
  | _, _, _, _ => []

/-- The checks of a draft against the raw spec of its items. -/
def check (d : Draft) (raw : RawSpec) : Except ConfigFault Config := do
  let count := raw.union.length
  checkCount .schema d.schema.length count
  checkCount .paths d.paths.length count
  checkCount .names d.names.length count
  checkColumns 0 raw.union d.names d.paths
  let keep := d.keep.getD (List.replicate count true)
  if keep.length ≠ count then
    throw (.keepCount keep.length count)
  let order := d.order.getD (List.range count)
  if !isOrder count order then
    throw (.noPermutation order count)
  let shown := (raw.relevant d.mode).length
  return {
    rootId := d.rootId
    items := d.items
    raw := raw
    settings := settings d.names d.schema d.paths keep
    order := order
    mode := d.mode
    keepUnknown := d.keepUnknown
    anchor := min (d.anchor.getD shown) shown }

/-- **Makes a configuration of a draft.** -/
def build (d : Draft) : Except Fault Config :=
  match RawSpec.ofItems? d.items with
  | none => .error .emptySourceGroup
  | some raw => (d.check raw).mapError .invalidConfig

end Draft

end OneTable
