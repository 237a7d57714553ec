import OneTable.Proofs.Model.Keyed
import OneTable.Proofs.Record.Decode

/-!
# What holds of every model of a run

A run starts from a fresh model, or from one that was loaded: from a document, or from a
configuration that an earlier run was rendered as. Then calls follow in any order and number,
and some of them may be refused. The invariant that carries through all of it is
`OneTable.Model.Aligned` together with `OneTable.Model.Offered`; this file puts the pieces
together and says what the invariant means for somebody who looks at the model by name and by
position.

A session works on a keyed model, where positions are written down, and a call that is refused has
been looking at it before. So the invariant is stated of keyed models as well: a run of keyed
models goes along with the run of the models that they stand for.

* `OneTable.Model.Start` – where a run may start;
* `OneTable.Model.WellFormed`, `OneTable.KeyedModel.WellFormed` – the invariant as it is seen from
  outside;
* `OneTable.Model.wellFormed_of_mem_trace` – **every model of every run is well formed,** and
  a call that is refused changes nothing.
-/

namespace OneTable

namespace Model

/-- **Where a run starts:** from a raw spec nobody has edited, from a document, or from a
configuration that a model of another run was rendered as. -/
inductive Start : Model → Prop
  | fresh {raw : RawSpec} {mode : FilterMode} {m : Model} (h : Model.fresh raw mode = .ok m) :
      Start m
  | loaded {text : String} {fallback : ColumnType} {c : Config}
      (h : Config.ofDocument text fallback = .ok c) : Start (ofConfig c)
  | rendered {m₀ m : Model} {es : List Edit} {rootId : String} {items : Items} {c : Config}
      (h₀ : Start m₀) (hm : m ∈ m₀.trace es) (h : m.toConfig rootId items = .ok c) :
      Start (ofConfig c)

/-- **A model as it has to be:** it has one transformation for each name that its mode shows
and no other, each about the raw column of its name, along a path that the type of this column
offers; the positions are the numbers from zero on, and the anchor is one of them or the
end. -/
structure WellFormed (m : Model) : Prop where
  names_perm : m.names.Perm (m.raw.shownNames m.mode)
  names_nodup : m.names.Nodup
  column_eq : ∀ t ∈ m.columns, m.raw.unionColumn? t.name = some t.column
  path_mem : ∀ t ∈ m.columns, t.path ∈ ConversionPath.available t.column.type
  source_eq : ∀ t ∈ m.columns, t.path.source = t.column.type
  positions_eq : m.names.map m.position? = (List.range m.columns.length).map some
  anchor_le : m.anchor ≤ m.columns.length

/-- The invariant, as it is seen from outside. -/
theorem Aligned.wellFormed {m : Model} (h : m.Aligned) (hoff : m.Offered) : m.WellFormed where
  names_perm := h.names_perm
  names_nodup := h.distinct
  column_eq _ ht := h.unionColumn?_eq ht
  path_mem := hoff
  source_eq t ht := ConversionPath.source_of_mem_available (hoff t ht)
  positions_eq := map_position?_names h.distinct
  anchor_le := h.anchor_le

/-- The invariant holds in a whole run where it holds at the start. -/
theorem aligned_of_mem_trace {m₀ m : Model} {es : List Edit} (h₀ : m₀.Aligned ∧ m₀.Offered)
    (hm : m ∈ m₀.trace es) : m.Aligned ∧ m.Offered := by
  obtain ⟨es', rfl⟩ := exists_run_of_mem_trace hm
  exact keptByCalls_offered.run h₀ es'

/-- **The invariant holds wherever a run starts.** A start may lie behind another run, so this
is an induction over how the start came up. -/
theorem Start.aligned {m : Model} (h : Start m) : m.Aligned ∧ m.Offered := by
  induction h with
  | fresh h => exact aligned_fresh h
  | loaded h =>
    obtain ⟨r, hr⟩ := Config.ofDocument_eq_ok h
    obtain ⟨hc, hoff⟩ := Record.aligned_of_decode hr
    exact ⟨aligned_ofConfig hc, offered_ofConfig hc hoff⟩
  | rendered _ hm h ih =>
    obtain ⟨hc, hoff⟩ := aligned_of_toConfig (aligned_of_mem_trace ih hm).2 h
    exact ⟨aligned_ofConfig hc, offered_ofConfig hc hoff⟩

/-- A call that is refused leaves the model as it was. -/
theorem after_of_error {m : Model} {e : Edit} {f : Fault} (h : e.apply m = .error f) :
    m.after e = m := by
  rw [after, h]

end Model

/-! ### Keyed models -/

namespace KeyedModel

/-- **A keyed model as it has to be:** it has one column for each name that its mode shows and no
other, each the raw column of its name, along a path that the type of this column offers; the
positions are the numbers from zero on, each taken once, and the anchor is one of them or the
end. -/
structure WellFormed (k : KeyedModel) : Prop where
  names_perm : (k.entries.map Placed.name).Perm (k.raw.shownNames k.mode)
  names_nodup : (k.entries.map Placed.name).Nodup
  column_eq : ∀ e ∈ k.entries, k.raw.unionColumn? e.name = some e.settings.column
  path_mem : ∀ e ∈ k.entries,
    e.settings.path ∈ ConversionPath.available e.settings.column.type
  source_eq : ∀ e ∈ k.entries, e.settings.path.source = e.settings.column.type
  positions_perm : (k.entries.map Placed.position).Perm (List.range k.entries.length)
  anchor_le : k.anchor ≤ k.entries.length

/-- What stands for a model that is well formed is well formed. -/
theorem StandsFor.wellFormed {k : KeyedModel} {m : Model} (h : k.StandsFor m)
    (hm : m.WellFormed) : k.WellFormed := by
  have hmem : ∀ e ∈ k.entries, e.settings ∈ m.columns := fun e he =>
    h.map_settings_perm.subset (List.mem_map_of_mem he)
  refine ⟨?_, h.names_perm.nodup_iff.2 hm.names_nodup, fun e he => ?_,
    fun e he => hm.path_mem _ (hmem e he), fun e he => hm.source_eq _ (hmem e he),
    h.positions_perm, ?_⟩
  · rw [h.raw_eq, h.mode_eq]
    exact h.names_perm.trans hm.names_perm
  · rw [h.raw_eq]
    exact hm.column_eq _ (hmem e he)
  · rw [h.anchor_eq, h.length_eq]
    exact hm.anchor_le

end KeyedModel

namespace Model

/-! ### Every run -/

/-- **Every model of every run is well formed,** and every call on it that is refused leaves it
as it was. The same is true of every run of keyed models, whatever the order of their entries,
and it goes along with the run of the models that they stand for: each call gives the same answer,
and a refusal hands back the keyed model as it was. -/
theorem wellFormed_of_mem_trace {m₀ : Model} (h₀ : Start m₀) (es : List Edit) :
    (∀ m ∈ m₀.trace es, m.WellFormed ∧ ∀ e f, Edit.apply m e = .error f → m.after e = m) ∧
    (KeyedModel.ofModel m₀).StandsFor m₀ ∧
    ∀ k₀ : KeyedModel, k₀.StandsFor m₀ →
      List.Forall₂ (fun k m => k.StandsFor m ∧ k.toModel = m ∧
          ∀ e, k.Answers (Edit.apply m e) (k.apply e)) (k₀.trace es) (m₀.trace es) ∧
      ∀ k ∈ k₀.trace es, k.WellFormed ∧ ∀ e f, (k.apply e).1 = .error f → (k.apply e).2 = k := by
  have hwell : ∀ m ∈ m₀.trace es, m.WellFormed := by
    intro m hm
    obtain ⟨halign, hoff⟩ := aligned_of_mem_trace h₀.aligned hm
    exact halign.wellFormed hoff
  refine ⟨fun m hm => ⟨hwell m hm, fun e f hf => after_of_error hf⟩,
    KeyedModel.standsFor_ofModel h₀.aligned.1, fun k₀ hk₀ => ?_⟩
  refine ⟨(hk₀.trace h₀.aligned.1 es).imp fun k m hkm =>
    ⟨hkm.1, hkm.1.toModel_eq, hkm.1.apply hkm.2.distinct⟩, fun k hk => ?_⟩
  obtain ⟨m, hm, hkm, halign⟩ := hk₀.exists_of_mem_trace h₀.aligned.1 hk
  exact ⟨hkm.wellFormed (hwell m hm), fun e f hf => (hkm.apply halign.distinct e).eq_of_error hf⟩

theorem wellFormed_of_mem_trace_orders :
    Start ordersModel ∧
    (∀ m ∈ ordersModel.trace ordersEdits,
      m.WellFormed ∧ ∀ e f, Edit.apply m e = .error f → m.after e = m) ∧
    (KeyedModel.ofModel ordersModel).StandsFor ordersModel ∧
    ∀ k ∈ (KeyedModel.ofModel ordersModel).trace ordersEdits,
      k.WellFormed ∧ ∀ e f, (k.apply e).1 = .error f → (k.apply e).2 = k := by
  have h : Start ordersModel := .fresh fresh_ordersRaw
  obtain ⟨hwell, hstands, hkeyed⟩ := wellFormed_of_mem_trace h ordersEdits
  exact ⟨h, hwell, hstands, (hkeyed _ hstands).2⟩

end Model

end OneTable
