import OneTable.Proofs.Reader.Rows
import OneTable.Proofs.Record.RoundTrip
import OneTable.Reader.Basic

/-!
# Nobody sees that a configuration was stored

A configuration that was stored and loaded again is not the one it was: the types of its items
are settled, and what was not certain has become so. This file says that nothing that is done
with a configuration tells the two apart. Whoever carries it over to other items gets the same
configuration, or the same fault; whoever reads rows gets the same rows and the same faults;
and it is made for the same items, with the same output.

The reason is that a configuration is looked at in two ways only. Loading it into a model takes
the types of the raw *union*, which settling does not change; and the reader of rows takes the
*names* of an item's columns, which settling does not change either. So the work is in the
first: the model that is loaded has its columns typed by name
(`OneTable.Model.ofConfig_settled`), and a reconciliation, which asks for the type of a column
and for nothing else of it, leads to the same model (`OneTable.Model.reslot_typedBy`).

* `OneTable.Model.typedBy` – a model whose columns have the types that their names are given;
* `OneTable.Config.SeenAs` – two configurations that nothing tells apart;
* `OneTable.Config.seenAs_reloaded` – **a configuration that comes up and the one that was
  loaded from what it was stored as** are seen as the same.
-/

namespace OneTable

/-! ### Models -/

/-- A transformation of a column that has the type its name is given. -/
def Transformation.typedBy (types : String → ColumnType) (t : Transformation) : Transformation :=
  { t with column := t.column.typedBy types }

/-- A model whose columns, and those of its raw spec, have the types that their names are
given. -/
def Model.typedBy (types : String → ColumnType) (m : Model) : Model :=
  { m with
    raw := m.raw.typedBy types
    columns := m.columns.map (Transformation.typedBy types) }

section TypedBy

variable {types : String → ColumnType}

/-- **To carry settings over is to look at the type of the old column** and at nothing else of
it. -/
theorem Transformation.carryOver_typedBy {t : Transformation}
    (h : types t.name = t.column.type) (c : Column) :
    (t.typedBy types).carryOver c = t.carryOver c := by
  have htype : (t.typedBy types).column.type = t.column.type := h
  rw [carryOver, carryOver, htype]
  rfl

namespace Model

variable {m : Model}

theorem get?_typedBy (n : String) :
    (m.typedBy types).get? n = (m.get? n).map (Transformation.typedBy types) := by
  rw [get?, get?, typedBy, List.find?_map]
  rfl

theorem position?_typedBy (n : String) : (m.typedBy types).position? n = m.position? n := by
  rw [position?, position?, typedBy, List.findIdx?_map]
  rfl

theorem placed?_typedBy (n : String) :
    (m.typedBy types).placed? n =
      (m.placed? n).map fun (i, t) => (i, t.typedBy types) := by
  rw [placed?, placed?, position?_typedBy, get?_typedBy]
  rcases m.position? n with _ | i <;> rcases m.get? n with _ | t <;> rfl

theorem discovered_typedBy (new : List Column) :
    (m.typedBy types).discovered new = m.discovered new := by
  simp only [discovered, get?_typedBy, Option.isNone_map]
  rfl

/-- What is carried over from a model does not depend on its columns beyond their names and
types. -/
theorem carried_typedBy (hm : m.names.Nodup)
    (h : ∀ t ∈ m.columns, types t.name = t.column.type) (new : List Column) :
    (m.typedBy types).carried new = m.carried new := by
  refine List.filterMap_congr fun c _ => ?_
  rw [placed?_typedBy, Option.map_map]
  refine Option.map_congr fun (i, t) hplaced => ?_
  -- what a model has placed is a column of it
  have hmem : t ∈ m.columns := List.mem_of_getElem? ((placed?_eq_some_iff hm).1 hplaced).1
  exact congrArg (Prod.mk i) (Transformation.carryOver_typedBy (h t hmem) c)

/-- **A model is carried over in the same way** when its columns are told the types they
have. -/
theorem reslot_typedBy (hm : m.names.Nodup)
    (h : ∀ t ∈ m.columns, types t.name = t.column.type) (raw : RawSpec) (mode : FilterMode) :
    (m.typedBy types).reslot raw mode = m.reslot raw mode := by
  simp only [reslot, ranked, carried_typedBy hm h, discovered_typedBy]
  rfl

end Model

end TypedBy

/-! ### Loading -/

namespace Model

variable {c : Config}

theorem shownPlaces_settled : shownPlaces c.settled = shownPlaces c := by
  -- the places of the columns shown are found by name
  have hshown : (c.settled.raw.relevant c.settled.mode).filterMap
      (fun d => c.settled.raw.unionIndex? d.name) =
      (c.raw.relevant c.mode).filterMap fun d => c.raw.unionIndex? d.name := by
    rw [Config.settled, RawSpec.relevant_typedBy, List.filterMap_map]
    exact List.filterMap_congr fun d _ => RawSpec.unionIndex?_typedBy c.raw.typeOf d.name
  rw [shownPlaces, shownPlaces, hshown]
  rfl

theorem transformation?_settled (i : ℕ) : transformation? c.settled i =
    (transformation? c i).map (Transformation.typedBy c.raw.typeOf) := by
  have hunion : c.settled.raw.union[i]? =
      (c.raw.union[i]?).map (Column.typedBy c.raw.typeOf) := List.getElem?_map
  have hsettings : c.settled.settings = c.settings := rfl
  rw [transformation?, transformation?, hunion, hsettings]
  rcases c.raw.union[i]? with _ | d <;> rcases c.settings[i]? with _ | s <;> rfl

/-- **A configuration with its types settled is loaded into the same model,** whose columns are
told the types of the union. -/
theorem ofConfig_settled : ofConfig c.settled = (ofConfig c).typedBy c.raw.typeOf := by
  have hcols : (shownPlaces c.settled).filterMap (transformation? c.settled) =
      ((shownPlaces c).filterMap (transformation? c)).map
        (Transformation.typedBy c.raw.typeOf) := by
    rw [shownPlaces_settled, List.map_filterMap]
    exact List.filterMap_congr fun i _ => transformation?_settled i
  rw [ofConfig, hcols, List.length_map]
  rfl

/-- The columns of a loaded model have the types of the union. -/
theorem typeOf_name_ofConfig (h : c.Aligned) :
    ∀ t ∈ (ofConfig c).columns, c.raw.typeOf t.name = t.column.type := by
  intro t ht
  have hmem : t.column ∈ c.raw.relevant c.mode :=
    (aligned_ofConfig h).columns_perm.subset (List.mem_map_of_mem ht)
  exact RawSpec.typeOf_of_mem_relevant hmem

end Model

/-! ### What is done with a configuration -/

namespace Config

variable {c : Config}

/-- **Carrying over does not see that the types were settled.** -/
theorem reconcile_settled (h : c.Aligned) (items : Items) :
    c.settled.reconcile items = c.reconcile items := by
  have hmodel : ∀ raw, (Model.ofConfig c.settled).reconcile raw =
      (Model.ofConfig c).reconcile raw := by
    intro raw
    rw [Model.ofConfig_settled]
    exact Model.reslot_typedBy (Model.aligned_ofConfig h).distinct
      (Model.typeOf_name_ofConfig h) raw c.mode
  simp only [reconcile, hmodel]
  rfl

/-- The rows of an item are taken apart by the names of its columns. -/
theorem itemStream_typedBy (types : String → ColumnType) (source : Source) (item : String)
    (spec : TableSpec) : c.itemStream source item ⟨spec.columns.map (Column.typedBy types)⟩ =
      c.itemStream source item spec := by
  have hplaces : c.places ⟨spec.columns.map (Column.typedBy types)⟩ = c.places spec := by
    refine List.map_congr_left fun slot _ => congrArg (Prod.mk slot) ?_
    rw [TableSpec.index?, TableSpec.index?, List.findIdx?_map]
    rfl
  simp only [itemStream, hplaces]

/-- **Reading does not see that the types were settled.** -/
theorem stream_settled (source : Source) : c.settled.stream source = c.stream source := by
  rw [stream_eq_flatMap, stream_eq_flatMap, settled, Items.typedBy, List.flatMap_map]
  exact List.flatMap_congr fun e _ => itemStream_typedBy c.raw.typeOf source e.1 e.2

theorem isFor_settled (rootId : String) (items : List String) :
    c.settled.isFor rootId items = c.isFor rootId items := by
  have hnames : c.settled.items.names = c.items.names := List.map_map
  have hlength : c.settled.items.length = c.items.length := List.length_map _
  rw [isFor, isFor, hnames, hlength]
  rfl

/-- **Two configurations that nothing tells apart:** they carry over to the same configuration
or fail in the same way, they give the same rows and the same faults, they are made for the
same items, and their output is the same. -/
structure SeenAs (c c' : Config) : Prop where
  reconcile_eq : ∀ items, c'.reconcile items = c.reconcile items
  stream_eq : ∀ source, c'.stream source = c.stream source
  isFor_eq : ∀ rootId items, c'.isFor rootId items = c.isFor rootId items
  outputSchema_eq : c'.outputSchema = c.outputSchema
  outputPaths_eq : c'.outputPaths = c.outputPaths

theorem seenAs_settled (h : c.Aligned) : c.SeenAs c.settled where
  reconcile_eq := reconcile_settled h
  stream_eq := stream_settled
  isFor_eq := isFor_settled
  outputSchema_eq := rfl
  outputPaths_eq := rfl

/-- **Storing a configuration and loading it again is invisible,** for every configuration that
comes up and every fallback type: what is loaded differs from it, but nothing tells the two
apart. -/
theorem seenAs_reloaded (h : c.Produced) (fallback : ColumnType) :
    ∃ loaded, (Record.ofConfig c).decode fallback = .ok loaded ∧ c.SeenAs loaded := by
  obtain ⟨halign, hoff⟩ := h.aligned
  exact ⟨c.settled, Record.decode_ofConfig halign hoff fallback, seenAs_settled halign⟩

/-- Nothing was seen of the notes, so that the loaded configuration, which is certain that they
are texts, is another one. -/
theorem seenAs_reloaded_orders :
    ∃ c, Config.fresh "orders" ordersItems .union = .ok c ∧ c.Produced ∧
      ∃ loaded, (Record.ofConfig c).decode .string = .ok loaded ∧ loaded ≠ c ∧
        c.SeenAs loaded := by
  obtain ⟨c, hc⟩ : ∃ c, Config.fresh "orders" ordersItems .union = .ok c := ⟨_, rfl⟩
  have hprod : c.Produced := .fresh hc
  obtain ⟨loaded, hdec, hseen⟩ := seenAs_reloaded hprod .string
  refine ⟨c, hc, hprod, loaded, hdec, fun heq => ?_, hseen⟩
  rw [Record.decode_ofConfig hprod.aligned.1 hprod.aligned.2] at hdec
  have hsettled := (settled_eq_self_iff hprod.aligned.1).1 ((Except.ok.inj hdec).trans heq)
  -- the items of a fresh configuration are those it was made for
  have hnote : Column.untyped "note" ∈ c.items.columns := by
    obtain rfl := Except.ok.inj hc
    decide
  exact absurd (hsettled _ hnote).1 (by decide)

end Config

end OneTable
