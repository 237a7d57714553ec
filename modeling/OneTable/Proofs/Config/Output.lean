import OneTable.Proofs.Config.SameItems

/-!
# A model and its configuration show one output

The output can be seen in two places. A model has its columns in output order and passes over
those that are not kept. Its configuration walks an order of places, looks every place up among
settings that stand in raw order, and passes over what is not kept there; behind the columns of
the model it has those that the model does not show, with settings that nobody chose. Both check
the names of what is left, and report the first that is met a second time.

Which name this is depends on the order, so that the two checks say the same only because both
see the same columns in the same order. And they do: a column of the model is found at its place,
with the settings that the model has for it, and what stands behind the columns of the model is
not kept (`OneTable.Config.slots_rendering`).

* `OneTable.FirstRepeat` – the first name that is met a second time, with
  `OneTable.checkDistinct_eq_ok_iff` and `OneTable.checkDistinct_eq_error_iff`;
* `OneTable.Config.Shows` – a slot shows a transformation;
* `OneTable.Model.AgreesWith` – a model and a configuration show one output;
* `OneTable.Model.agreesWith_toConfig` – **a model and its configuration do,** for every model
  that comes up.
-/

namespace OneTable

/-! ### Names that are met a second time -/

/-- **The first name that is met a second time:** the names in front of it differ, and it is one
of them. -/
def FirstRepeat (names : List String) (n : String) : Prop :=
  ∃ before after, names = before ++ n :: after ∧ before.Nodup ∧ n ∈ before

section Repeated

variable {names seen : List String} {n : String}

/-- What the search finds behind names that it has seen. -/
theorem firstRepeated_eq_some_iff : firstRepeated seen names = some n ↔
    ∃ before after, names = before ++ n :: after ∧ before.Nodup ∧ (∀ x ∈ before, x ∉ seen) ∧
      (n ∈ seen ∨ n ∈ before) := by
  induction names generalizing seen with
  | nil => simp [firstRepeated]
  | cons x names ih =>
    rw [firstRepeated]
    split
    case isTrue hx =>
      constructor
      · rintro ⟨⟩
        exact ⟨[], names, rfl, .nil, nofun, .inl hx⟩
      · rintro ⟨_ | ⟨y, before⟩, after, hnames, -, hseen, -⟩
        · rw [(List.cons.inj hnames).1]
        · exact absurd ((List.cons.inj hnames).1 ▸ hx) (hseen y List.mem_cons_self)
    case isFalse hx =>
      rw [ih]
      constructor
      · rintro ⟨before, after, rfl, hnodup, hseen, hn⟩
        refine ⟨x :: before, after, rfl, List.nodup_cons.2 ⟨?_, hnodup⟩, ?_, ?_⟩
        · exact fun hmem => hseen x hmem List.mem_cons_self
        · exact List.forall_mem_cons.2 ⟨hx, fun y hy hys => hseen y hy (List.mem_cons_of_mem _ hys)⟩
        · grind
      · rintro ⟨_ | ⟨y, before⟩, after, hnames, hnodup, hseen, hn⟩
        · obtain ⟨rfl, -⟩ := List.cons.inj hnames
          exact absurd (hn.resolve_right List.not_mem_nil) hx
        · obtain ⟨rfl, rfl⟩ := List.cons.inj hnames
          obtain ⟨hy, hnodup⟩ := List.nodup_cons.1 hnodup
          refine ⟨before, after, rfl, hnodup, fun z hz => ?_, ?_⟩
          · grind
          · grind

/-- The search finds nothing exactly if all names are new and differ. -/
theorem firstRepeated_eq_none_iff :
    firstRepeated seen names = none ↔ names.Nodup ∧ ∀ x ∈ names, x ∉ seen := by
  induction names generalizing seen with
  | nil => simp [firstRepeated]
  | cons x names ih =>
    rw [firstRepeated]
    split
    case isTrue hx => exact iff_of_false nofun fun h => h.2 x List.mem_cons_self hx
    case isFalse hx =>
      rw [ih]
      grind

/-- **The check is passed** exactly if the names differ. -/
theorem checkDistinct_eq_ok_iff : checkDistinct names = .ok () ↔ names.Nodup := by
  have hnone : firstRepeated [] names = none ↔ names.Nodup :=
    firstRepeated_eq_none_iff.trans (and_iff_left fun _ _ => List.not_mem_nil)
  rw [checkDistinct, ← hnone]
  cases firstRepeated [] names <;> simp

/-- **The check fails** on the first name that is met a second time. -/
theorem checkDistinct_eq_error_iff {fault : Fault} : checkDistinct names = .error fault ↔
    ∃ n, fault = .duplicateOutputName n ∧ FirstRepeat names n := by
  have hsome : ∀ n, firstRepeated [] names = some n ↔ FirstRepeat names n := fun n => by
    rw [firstRepeated_eq_some_iff, FirstRepeat]
    simp
  simp only [checkDistinct, ← hsome]
  cases firstRepeated [] names <;> simp [eq_comm]

end Repeated

/-- Choosing the values of some entries relates these entries to their values. -/
theorem forall₂_filter_filterMap {α β : Type} {R : α → β → Prop} {p : α → Bool}
    {f : α → Option β} {as : List α} (hsome : ∀ a ∈ as, p a → ∃ b, f a = some b ∧ R a b)
    (hnone : ∀ a ∈ as, p a = false → f a = none) :
    List.Forall₂ R (as.filter p) (as.filterMap f) := by
  induction as with
  | nil => exact .nil
  | cons a as ih =>
    have hrest := ih (fun x hx => hsome x (List.mem_cons_of_mem _ hx))
      fun x hx => hnone x (List.mem_cons_of_mem _ hx)
    cases hp : p a with
    | false =>
      rw [List.filter_cons_of_neg (by rw [hp]; exact Bool.false_ne_true),
        List.filterMap_cons_none (hnone a List.mem_cons_self hp)]
      exact hrest
    | true =>
      obtain ⟨b, hb, hab⟩ := hsome a List.mem_cons_self hp
      rw [List.filter_cons_of_pos hp, List.filterMap_cons_some hb]
      exact .cons hab hrest

namespace Config

/-! ### The output of a configuration -/

/-- The output names, in output order. -/
def outputNames (c : Config) : List String :=
  c.slots.map fun s => s.setting.output.name

section Schema

variable {c : Config}

/-- The schema is that of the slots, where their names differ. -/
theorem outputSchema_eq_ok_iff {schema : List OutputColumn} : c.outputSchema = .ok schema ↔
    c.outputNames.Nodup ∧ schema = c.slots.map fun s => s.setting.output := by
  have hnames : (c.slots.map fun s => s.setting.output).map OutputColumn.name = c.outputNames :=
    List.map_map
  rw [← checkDistinct_eq_ok_iff, outputSchema, hnames]
  cases checkDistinct c.outputNames <;> simp [eq_comm]

/-- There is no schema where their names are refused. -/
theorem outputSchema_eq_error_iff {fault : Fault} :
    c.outputSchema = .error fault ↔ checkDistinct c.outputNames = .error fault := by
  have hnames : (c.slots.map fun s => s.setting.output).map OutputColumn.name = c.outputNames :=
    List.map_map
  rw [outputSchema, hnames]
  cases checkDistinct c.outputNames <;> simp

end Schema

/-- **A slot shows a transformation:** it is filled by the column of the transformation, under the
column's name, and has the output name of the transformation, its path, and the type that the
path leads to. -/
structure Shows (c : Config) (t : Transformation) (s : Slot) : Prop where
  column : c.raw.union[s.rawIndex]? = some t.column
  setting : s.setting = ⟨t.name, ⟨t.outputName, t.path.destination⟩, t.path, true⟩

end Config

namespace Model

/-! ### The output of a model -/

/-- **A model and a configuration show one output.** -/
structure AgreesWith (m : Model) (c : Config) : Prop where
  /-- The slots show the columns that are kept, one for one and in output order. -/
  slots : List.Forall₂ c.Shows m.kept c.slots
  /-- So the paths are those of the columns that are kept. -/
  paths : c.outputPaths = m.kept.map Transformation.path
  /-- The names of the one are accepted exactly if those of the other are, which is where they
  differ. -/
  accepts : (m.validate = .ok () ↔ m.keptNames.Nodup) ∧
    (m.validate = .ok () ↔ ∃ schema, c.outputSchema = .ok schema)
  /-- If they are refused, it is for the same name: the first that is met a second time. -/
  refuses : ∀ fault,
    (m.validate = .error fault ↔ ∃ n, fault = .duplicateOutputName n ∧ FirstRepeat m.keptNames n) ∧
    (m.validate = .error fault ↔ c.outputSchema = .error fault)
  /-- If they are accepted, they are the names of the schema. -/
  names : ∀ schema, c.outputSchema = .ok schema →
    schema.map OutputColumn.name = m.keptNames

variable {m : Model} {rootId : String} {items : Items}

/-- A column of the model fills its slot, if it is kept. -/
theorem Aligned.slot?_rendering (h : m.Aligned) {t : Transformation} (ht : t ∈ m.columns) :
    ∃ i, m.raw.union[i]? = some t.column ∧
      (m.raw.unionIndex? t.name).bind (Config.slot? (m.raw.union.map m.setting)) =
        if t.keep then some ⟨i, m.setting t.column⟩ else none := by
  obtain ⟨i, hi, hget⟩ := h.exists_place ht
  have hsetting : (m.raw.union.map m.setting)[i]? = some (m.setting t.column) := by
    rw [List.getElem?_map, hget, Option.map_some]
  refine ⟨i, hget, ?_⟩
  rw [hi, Option.bind_some, Config.slot?_of_getElem? hsetting, setting_of_mem h.distinct ht]

/-- **The slots of a rendered model show the columns that are kept,** in output order. -/
theorem Aligned.shows_rendering (h : m.Aligned) :
    List.Forall₂ (m.rendering rootId items).Shows m.kept (m.rendering rootId items).slots := by
  rw [Config.slots_rendering, places, List.filterMap_filterMap, kept]
  refine forall₂_filter_filterMap (fun t ht hkeep => ?_) fun t ht hkeep => ?_
  · obtain ⟨i, hget, hslot⟩ := h.slot?_rendering ht
    refine ⟨⟨i, m.setting t.column⟩, by rw [hslot, if_pos hkeep], hget, ?_⟩
    exact (setting_of_mem h.distinct ht).trans (by rw [hkeep])
  · obtain ⟨i, -, hslot⟩ := h.slot?_rendering ht
    rw [hslot, if_neg (by rw [hkeep]; exact Bool.false_ne_true)]

/-- What is read off each slot is what is read off each column that is kept. -/
theorem map_slots_eq {α : Type} {c : Config} {f : Slot → α} {g : Transformation → α}
    (h : List.Forall₂ c.Shows m.kept c.slots) (hfg : ∀ t s, c.Shows t s → f s = g t) :
    c.slots.map f = m.kept.map g := by
  rw [← List.forall₂_eq_eq_eq, List.forall₂_map_left_iff, List.forall₂_map_right_iff]
  exact h.flip.imp fun s t hst => hfg t s hst

/-- **Where slots show the columns that are kept,** the output is one and the same. -/
theorem agreesWith_of_shows {c : Config} (h : List.Forall₂ c.Shows m.kept c.slots) :
    m.AgreesWith c := by
  have hnames : c.outputNames = m.keptNames :=
    map_slots_eq h fun t s hst => by rw [hst.setting]
  refine ⟨h, map_slots_eq h fun t s hst => by rw [hst.setting], ⟨checkDistinct_eq_ok_iff, ?_⟩,
    fun fault => ⟨checkDistinct_eq_error_iff, ?_⟩, fun schema hschema => ?_⟩
  · simp only [Config.outputSchema_eq_ok_iff, hnames, exists_and_left, exists_eq, and_true]
    exact checkDistinct_eq_ok_iff
  · rw [Config.outputSchema_eq_error_iff, hnames, validate]
  · rw [(Config.outputSchema_eq_ok_iff.1 hschema).2, List.map_map]
    exact hnames

/-- **A model and its configuration show one output,** for every model that comes up, every root
and all items that have its raw spec. -/
theorem agreesWith_toConfig (h : m.ReachableFrom IsFresh)
    (hitems : RawSpec.ofItems? items = some m.raw) (rootId : String) :
    ∃ c, m.toConfig rootId items = .ok c ∧ m.AgreesWith c := by
  obtain ⟨halign, hoff⟩ := h.aligned_of_fresh
  exact ⟨m.rendering rootId items, toConfig_eq_ok halign hoff.sourced hitems,
    agreesWith_of_shows halign.shows_rendering⟩

/-- The day comes first, and the orders are called days too. -/
def ordersConfused : Model :=
  ordersModel.run [.moveTo "day" 0, .rename "order" "day"]

theorem agreesWith_toConfig_orders :
    ordersConfused.ReachableFrom IsFresh ∧ RawSpec.ofItems? ordersGroup = some ordersConfused.raw ∧
    ordersConfused.validate = .error (.duplicateOutputName "day") ∧
    ∃ c, ordersConfused.toConfig "orders" ordersGroup = .ok c ∧ ordersConfused.AgreesWith c ∧
      c.outputSchema = .error (.duplicateOutputName "day") := by
  have hreachable : ordersConfused.ReachableFrom IsFresh :=
    ⟨ordersModel, _, ⟨ordersRaw, .union, fresh_ordersRaw⟩, rfl⟩
  have hrefused : ordersConfused.validate = .error (.duplicateOutputName "day") := by
    decide +kernel
  obtain ⟨c, hc, hagrees⟩ := agreesWith_toConfig hreachable ofItems?_ordersGroup "orders"
  exact ⟨hreachable, ofItems?_ordersGroup, hrefused, c, hc, hagrees,
    (hagrees.refuses _).2.1 hrefused⟩

end Model

end OneTable
