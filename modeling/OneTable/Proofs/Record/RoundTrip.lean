import OneTable.Proofs.Record.Decode
import OneTable.Proofs.Retyping

/-!
# Storing a configuration and loading it again

A document keeps the names of the columns of each item, but not their types. When it is loaded,
the types are taken from the conversion paths, which start at the types of the union; then the
raw spec is made of the items once more, and the settings are checked against it as those of any
draft are.

That this goes well, and what comes out, rests on three things: the name of a converter stands
for its path, the types of the union are a fixed point of settling types
(`OneTable.RawSpec.map_typedBy_typeOf`), and the anchor of a configuration is a place among
the columns shown, so that it is not moved. What comes out is the configuration with its types
*settled* (`OneTable.Config.settled`): every column of every item has the type of the union, and
nothing else has changed. So a configuration comes back as it was exactly if its types were
settled before; and storing what was loaded gives the same document, because a document does not
know the types of items.

* `OneTable.Record.decode_ofConfig` – **a configuration comes back settled**;
* `OneTable.Config.Produced` – the configurations that come up;
* `OneTable.Config.LoadedFrom` – what a configuration and the loaded one have in common;
* `OneTable.Config.loadedFrom_of_produced` – **what storing and loading does** to every
  configuration that comes up.
-/

namespace OneTable

/-! ### Names that are read back -/

/-- **The name of an offered path's converter stands for the path.** -/
theorem ConversionPath.resolve?_converter {p : ConversionPath} (h : p ∈ available p.source) :
    resolve? p.converter = some p := by
  -- there are seventeen paths
  have hall : ∀ type, ∀ q ∈ available type, resolve? q.converter = some q := by
    intro type
    cases type <;> decide +kernel
  exact hall p.source p h

namespace Record

theorem modeOf_name (mode : FilterMode) : modeOf mode.name = .ok mode := by
  cases mode <;> rfl

theorem resolvePaths_map_converter {ps : List ConversionPath}
    (h : ∀ p ∈ ps, p ∈ ConversionPath.available p.source) :
    resolvePaths (ps.map ConversionPath.converter) = .ok ps := by
  rw [resolvePaths_eq_ok_iff, List.map_map]
  exact List.map_congr_left fun p hp => ConversionPath.resolve?_converter (h p hp)

/-! ### Types that are given back -/

section Types

variable {entries : List (String × ColumnType)} {types : String → ColumnType}

/-- The last entry of a name is its only one where names differ. -/
theorem last?_eq_some_iff {α : Type} {entries : List (String × α)}
    (hd : (entries.map Prod.fst).Nodup) {n : String} {a : α} :
    last? entries n = some a ↔ (n, a) ∈ entries := by
  have hrev : (entries.reverse.map Prod.fst).Nodup := by
    rw [List.map_reverse, List.nodup_reverse]
    exact hd
  rw [last?, Option.map_eq_some_iff]
  constructor
  · rintro ⟨⟨k, b⟩, hfind, rfl⟩
    obtain ⟨hmem, rfl⟩ := (find?_key_eq_some_iff hrev).1 hfind
    exact List.mem_reverse.1 hmem
  · intro h
    exact ⟨(n, a), (find?_key_eq_some_iff hrev).2 ⟨List.mem_reverse.2 h, rfl⟩, rfl⟩

/-- The columns of an item get the types of their names where every name has one. -/
theorem typedColumns_eq_ok {item : String} {ns : List String}
    (h : ∀ n ∈ ns, last? entries n = some (types n)) :
    typedColumns entries item ns = .ok (ns.map fun n => Column.ofType n (types n)) := by
  induction ns with
  | nil => rfl
  | cons n ns ih =>
    obtain ⟨hn, hns⟩ := List.forall_mem_cons.1 h
    rw [typedColumns, hn, ih hns]
    rfl

/-- The items of a record are put one behind the other, because their names differ. -/
theorem typedItems_eq_ok {is : Items} {rs : List RecordItem}
    (h : ∀ r ∈ rs, ∀ n ∈ r.columns, last? entries n = some (types n))
    (hd : (is.names ++ rs.map RecordItem.item).Nodup) :
    ∃ is', typedItems entries is rs = .ok is' ∧ is'.entries = is.entries ++
      rs.map fun r => (r.item, ⟨r.columns.map fun n => Column.ofType n (types n)⟩) := by
  induction rs generalizing is with
  | nil => exact ⟨is, rfl, (List.append_nil _).symm⟩
  | cons r rs ih =>
    obtain ⟨hr, hrs⟩ := List.forall_mem_cons.1 h
    rw [List.map_cons, ← List.singleton_append, ← List.append_assoc] at hd
    have hnew : r.item ∉ is.names := fun hmem =>
      (List.nodup_append.1 (List.nodup_append.1 hd).1).2.2 _ hmem _ (List.mem_singleton_self _) rfl
    have hentries := Items.entries_insert_of_notMem
      ⟨r.columns.map fun n => Column.ofType n (types n)⟩ hnew
    have hdistinct : ((is.insert r.item
        ⟨r.columns.map fun n => Column.ofType n (types n)⟩).names ++
        rs.map RecordItem.item).Nodup := by
      rw [Items.names, hentries, List.map_append]
      exact hd
    obtain ⟨is', hok, his'⟩ := ih hrs hdistinct
    refine ⟨is', ?_, ?_⟩
    · rw [typedItems, typedColumns_eq_ok hr]
      exact hok
    · rw [his', hentries, List.append_assoc]
      rfl

end Types

end Record

/-! ### Settled types -/

namespace Config

/-- **A configuration with its types settled:** every column of every item has the type of the
union. -/
def settled (c : Config) : Config :=
  { c with
    items := c.items.typedBy c.raw.typeOf
    raw := c.raw.typedBy c.raw.typeOf }

variable {c : Config}

/-- **The type of an item's column is found again:** its name is in the union, and the path of
the union column starts at the type there. -/
theorem Aligned.last?_eq (h : c.Aligned) {d : Column} (hd : d ∈ c.items.columns) :
    Record.last? (c.rawNames.zip (c.paths.map ConversionPath.source)) d.name =
      some (c.raw.typeOf d.name) := by
  rw [h.names_eq, h.sources_eq, List.zip_map']
  have hdistinct : ((c.raw.union.map fun u => (u.name, u.type)).map Prod.fst).Nodup := by
    rw [List.map_map]
    exact c.raw.distinct
  obtain ⟨u, hu, hn⟩ := List.mem_map.1 (RawSpec.mem_union_of_mem_columns h.raw_eq hd)
  rw [← hn, Record.last?_eq_some_iff hdistinct, RawSpec.typeOf_of_mem hu]
  exact List.mem_map_of_mem hu

/-- **The items of a record come back settled.** -/
theorem Aligned.typedItems_eq (h : c.Aligned) :
    Record.typedItems (c.rawNames.zip (c.paths.map ConversionPath.source)) Items.empty
      (c.items.entries.map fun e => ⟨e.1, e.2.names⟩) = .ok (c.items.typedBy c.raw.typeOf) := by
  have htypes : ∀ r ∈ c.items.entries.map fun e => (⟨e.1, e.2.names⟩ : RecordItem),
      ∀ n ∈ r.columns, Record.last? (c.rawNames.zip (c.paths.map ConversionPath.source)) n =
        some (c.raw.typeOf n) := by
    intro r hr n hn
    obtain ⟨e, he, rfl⟩ := List.mem_map.1 hr
    obtain ⟨d, hd, rfl⟩ := List.mem_map.1 hn
    exact h.last?_eq (List.mem_flatMap.2 ⟨e, he, hd⟩)
  have hitems : (Items.empty.names ++ (c.items.entries.map fun e =>
      (⟨e.1, e.2.names⟩ : RecordItem)).map RecordItem.item).Nodup := by
    rw [List.map_map]
    exact c.items.distinct
  obtain ⟨is, hok, his⟩ := Record.typedItems_eq_ok htypes hitems
  rw [hok]
  refine congrArg Except.ok (Items.eq_of_entries_eq ?_)
  rw [his, List.map_map]
  refine List.map_congr_left fun e _ => ?_
  rw [Function.comp_apply, TableSpec.names, List.map_map]
  rfl

/-- The draft of a configuration's record. -/
def storedDraft (c : Config) : Draft :=
  Record.currentDraft (Record.ofConfig c) c.rootId (c.items.typedBy c.raw.typeOf) c.schema
    c.rawNames c.paths c.order c.keepFlags c.mode

/-- **The settings of a configuration fit the settled raw spec.** -/
theorem Aligned.fits (h : c.Aligned) : c.storedDraft.Fits (c.raw.typedBy c.raw.typeOf) := by
  have hlen : (c.raw.typedBy c.raw.typeOf).union.length = c.raw.union.length :=
    RawSpec.length_relevant_typedBy c.raw.typeOf .union
  refine ⟨?_, ?_, ?_, ?_, ?_, h.order_nodup⟩
  · rw [hlen, ← h.length_settings]
    exact List.length_map _
  · exact h.names_eq.trans (Column.map_name_map_typedBy _ _).symm
  · exact h.sources_eq.trans (RawSpec.map_typedBy_typeOf (fun _ type => type) .union).symm
  · rw [hlen, ← h.length_settings]
    exact List.length_map _
  · rw [hlen]
    exact h.order_lt

/-- The draft of a configuration's record becomes the configuration with its types settled. -/
theorem Aligned.configFor_eq (h : c.Aligned) :
    c.storedDraft.configFor (c.raw.typedBy c.raw.typeOf) = c.settled := by
  have hsettings : Draft.settings c.rawNames c.schema c.paths c.keepFlags = c.settings :=
    Draft.settings_map c.settings
  have hanchor : min c.anchor ((c.raw.typedBy c.raw.typeOf).relevant c.mode).length =
      c.anchor := by
    rw [RawSpec.length_relevant_typedBy]
    exact Nat.min_eq_left h.anchor_le
  have hparts : c.storedDraft.configFor (c.raw.typedBy c.raw.typeOf) =
      { c.settled with
        settings := Draft.settings c.rawNames c.schema c.paths c.keepFlags
        anchor := min c.anchor ((c.raw.typedBy c.raw.typeOf).relevant c.mode).length } := rfl
  rw [hparts, hsettings, hanchor]
  rfl

end Config

/-- **A configuration comes back with its types settled,** whatever the fallback type is. -/
theorem Record.decode_ofConfig {c : Config} (h : c.Aligned) (hoff : c.Offered)
    (fallback : ColumnType) : (Record.ofConfig c).decode fallback = .ok c.settled := by
  have hraw : RawSpec.ofItems? (c.items.typedBy c.raw.typeOf) =
      some (c.raw.typedBy c.raw.typeOf) := by
    rw [RawSpec.ofItems?_typedBy, h.raw_eq, Option.map_some]
  have hbuild : c.storedDraft.build = .ok c.settled :=
    Draft.build_eq_ok_iff.2 ⟨_, hraw, h.fits, h.configFor_eq.symm⟩
  have hlen : c.schema.length = c.rawNames.length ∧
      (c.paths.map ConversionPath.converter).length = c.rawNames.length := by
    simp [Config.schema, Config.rawNames, Config.paths]
  have hcurrent : (Record.ofConfig c).decode fallback = (Record.ofConfig c).decodeCurrent := rfl
  rw [hcurrent, decodeCurrent_eq_ok_iff]
  exact ⟨_, _, _, _, _, _, _, _, _, _, _, rfl, rfl, rfl, rfl, rfl, rfl, rfl, rfl,
    modeOf_name c.mode, hlen, resolvePaths_map_converter hoff, h.typedItems_eq, hbuild⟩

/-! ### What a configuration and the loaded one have in common -/

namespace Config

/-- **A configuration that was loaded from what another was stored as** has everything of it,
but for the types of the items: these are settled, and the union is certain of its types. -/
structure LoadedFrom (c loaded : Config) : Prop where
  rootId_eq : loaded.rootId = c.rootId
  mode_eq : loaded.mode = c.mode
  keepUnknown_eq : loaded.keepUnknown = c.keepUnknown
  anchor_eq : loaded.anchor = c.anchor
  schema_eq : loaded.schema = c.schema
  paths_eq : loaded.paths = c.paths
  rawNames_eq : loaded.rawNames = c.rawNames
  order_eq : loaded.order = c.order
  keepFlags_eq : loaded.keepFlags = c.keepFlags
  /-- The items have their names and the names of their columns, in order. -/
  items_eq : loaded.items.entries.map (fun e => (e.1, e.2.names)) =
    c.items.entries.map fun e => (e.1, e.2.names)
  union_eq : loaded.raw.union.map (fun d => (d.name, d.type)) =
    c.raw.union.map fun d => (d.name, d.type)
  intersection_eq : loaded.raw.intersection.map (fun d => (d.name, d.type)) =
    c.raw.intersection.map fun d => (d.name, d.type)
  union_typed : ∀ d ∈ loaded.raw.union, d.typed = true
  items_settled : ∀ d ∈ loaded.items.columns, d.SettledBy c.raw

variable {c : Config}

/-- The items of a configuration with its types settled have the same names, and so have their
columns. -/
theorem items_settled_eq :
    c.settled.items.entries.map (fun e => (e.1, e.2.names)) =
      c.items.entries.map fun e => (e.1, e.2.names) := by
  rw [settled, Items.typedBy, List.map_map]
  refine List.map_congr_left fun e _ => ?_
  rw [Function.comp_apply, TableSpec.names, Column.map_name_map_typedBy]
  rfl

theorem loadedFrom_settled (h : c.Aligned) : c.LoadedFrom c.settled where
  rootId_eq := rfl
  mode_eq := rfl
  keepUnknown_eq := rfl
  anchor_eq := rfl
  schema_eq := rfl
  paths_eq := rfl
  rawNames_eq := rfl
  order_eq := rfl
  keepFlags_eq := rfl
  items_eq := items_settled_eq
  union_eq := RawSpec.map_typedBy_typeOf Prod.mk .union
  intersection_eq := RawSpec.map_typedBy_typeOf Prod.mk .intersection
  union_typed d hd := by
    obtain ⟨u, -, rfl⟩ := List.mem_map.1 hd
    rfl
  items_settled _ hd := Items.settledBy_of_mem_typedBy h.raw_eq hd

/-- **A configuration is its own settled one** exactly if its types are settled. -/
theorem settled_eq_self_iff (h : c.Aligned) :
    c.settled = c ↔ ∀ d ∈ c.items.columns, d.SettledBy c.raw := by
  rw [← Items.typedBy_typeOf_eq_self_iff h.raw_eq]
  constructor
  · exact fun heq => congrArg Config.items heq
  · intro hitems
    -- the raw spec follows from the items
    have hraw : some (c.raw.typedBy c.raw.typeOf) = some c.raw := by
      rw [← h.raw_eq, ← hitems, RawSpec.ofItems?_typedBy, h.raw_eq, Option.map_some]
    rw [settled, hitems, Option.some.inj hraw]

/-- **A record does not know the types of items,** so that settling them does not change it. -/
theorem ofConfig_settled : Record.ofConfig c.settled = Record.ofConfig c := by
  have hitems : (c.settled.items.entries.map fun e => (⟨e.1, e.2.names⟩ : RecordItem)) =
      c.items.entries.map fun e => ⟨e.1, e.2.names⟩ := by
    have := congrArg (List.map fun p => (⟨p.1, p.2⟩ : RecordItem)) (items_settled_eq (c := c))
    rwa [List.map_map, List.map_map] at this
  exact congrArg (fun is => { Record.ofConfig c with individualSpecs := some is }) hitems

/-! ### The configurations that come up -/

/-- **The configurations that come up:** a fresh one, one that a model of a run was rendered as
which started from items nobody had edited, and one that was carried over to other items. -/
inductive Produced : Config → Prop
  | fresh {rootId : String} {items : Items} {mode : FilterMode} {c : Config}
      (h : Config.fresh rootId items mode = .ok c) : Produced c
  | rendered {m : Model} {rootId : String} {items : Items} {c : Config}
      (hm : m.ReachableFrom Model.IsFresh) (h : m.toConfig rootId items = .ok c) : Produced c
  | reconciled {c c' : Config} {items : Items} (hc : Produced c)
      (h : c.reconcile items = .ok c') : Produced c'

/-- Every configuration that comes up is aligned, and all its paths are offered. -/
theorem Produced.aligned (h : c.Produced) : c.Aligned ∧ c.Offered := by
  induction h with
  | fresh h =>
    obtain ⟨raw, m, -, hm, h⟩ := fresh_eq_ok_iff.1 h
    exact Model.aligned_of_toConfig (Model.aligned_fresh hm).2 h
  | rendered hm h => exact Model.aligned_of_toConfig hm.aligned_of_fresh.2 h
  | reconciled _ h ih => exact aligned_of_reconcile ih.1 ih.2 h

/-- **What storing and loading does to a configuration that comes up.** Its record decodes,
whatever the fallback type is; the loaded configuration has everything of it but the types of
the items, and it is the same exactly if these were settled; and it is stored as the same
document. -/
theorem loadedFrom_of_produced (h : c.Produced) (fallback : ColumnType) :
    ∃ loaded, (Record.ofConfig c).decode fallback = .ok loaded ∧ c.LoadedFrom loaded ∧
      (loaded = c ↔ ∀ d ∈ c.items.columns, d.SettledBy c.raw) ∧
      Record.ofConfig loaded = Record.ofConfig c ∧ loaded.document = c.document := by
  obtain ⟨halign, hoff⟩ := h.aligned
  refine ⟨c.settled, Record.decode_ofConfig halign hoff fallback, loadedFrom_settled halign,
    settled_eq_self_iff halign, ofConfig_settled, ?_⟩
  rw [document, document, ofConfig_settled]

/-- Two items that disagree about the type of the order number; no note has been seen. -/
def ordersItems : Items where
  entries := [("east", ⟨[Column.ofType "order" .integer, Column.untyped "note"]⟩),
    ("west", ⟨[Column.ofType "order" .float]⟩)]
  distinct := by simp

theorem loadedFrom_of_produced_orders :
    ∃ c, Config.fresh "orders" ordersItems .union = .ok c ∧ c.Produced ∧
      ∃ loaded, (Record.ofConfig c).decode .string = .ok loaded ∧ c.LoadedFrom loaded ∧
        (loaded = c ↔ ∀ d ∈ c.items.columns, d.SettledBy c.raw) ∧
        Record.ofConfig loaded = Record.ofConfig c ∧ loaded.document = c.document := by
  obtain ⟨c, hc⟩ : ∃ c, Config.fresh "orders" ordersItems .union = .ok c := ⟨_, rfl⟩
  exact ⟨c, hc, .fresh hc, loadedFrom_of_produced (.fresh hc) .string⟩

end Config

end OneTable
