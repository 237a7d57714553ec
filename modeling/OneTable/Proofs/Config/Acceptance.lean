import OneTable.Proofs.Config.SameItems
import OneTable.Proofs.RawSpec

/-!
# What becomes of a draft

A draft has three lists that the caller fills, and two that may be left out. They are as long as
the caller makes them, and from the moment that they are a configuration nobody looks at their
lengths again: whoever reads the output walks the order and takes from each list what stands at a
place, and whoever loads a model does the same with the places that the mode shows.

So everything that could go wrong there has to be found when the configuration is made. This is
done, and not more than this: a draft is turned down only if it has no items, or with a complaint
that is true of it (`OneTable.Draft.Misfit`), and it is accepted exactly if every list, as far as it
is given, lines up with the columns of the items (`OneTable.Draft.LinesUp`).

* `OneTable.Draft.LinesUp` – what the lists have to be, with `OneTable.Draft.fits_iff_linesUp`;
* `OneTable.Draft.Misfit` – the complaints, with `OneTable.Draft.misfit_of_check_eq_error`;
* `OneTable.Config.Safe` – whoever reads the lists at a place finds something there;
* `OneTable.Draft.decided` – **a draft is accepted exactly if it lines up, and then it is safe**.
-/

namespace OneTable

/-- Values that are found for all entries are all of the values that are found. -/
theorem map_eq_map_some_filterMap {α β : Type} {f : α → Option β} {as : List α}
    (h : ∀ a ∈ as, ∃ b, f a = some b) : as.map f = (as.filterMap f).map some := by
  induction as with
  | nil => rfl
  | cons a as ih =>
    obtain ⟨b, hb⟩ := h a List.mem_cons_self
    rw [List.map_cons, List.filterMap_cons_some hb, List.map_cons, hb,
      ih fun a ha => h a (List.mem_cons_of_mem _ ha)]

namespace Draft

variable {d : Draft} {raw : RawSpec}

/-! ### Accepted drafts -/

/-- **A draft lines up with a raw spec:** its lists have an entry for each union column, those that
may be left out as far as they are given, and no two entries of the order are the same. -/
structure LinesUp (d : Draft) (raw : RawSpec) : Prop where
  schema_length : d.schema.length = raw.union.length
  paths_length : d.paths.length = raw.union.length
  names_length : d.names.length = raw.union.length
  names_eq : d.names = raw.union.map Column.name
  sources_eq : d.paths.map ConversionPath.source = raw.union.map Column.type
  keep_length : ∀ keep, d.keep = some keep → keep.length = raw.union.length
  order_nodup : ∀ order, d.order = some order → order.Nodup
  order_lt : ∀ order, d.order = some order → ∀ i ∈ order, i < raw.union.length

/-- What is put for a list that is left out fits. -/
theorem fits_iff_linesUp : d.Fits raw ↔ d.LinesUp raw := by
  constructor
  · intro h
    exact {
      schema_length := h.schema_length
      paths_length := h.paths_length
      names_length := h.names_length
      names_eq := h.names_eq
      sources_eq := h.sources_eq
      keep_length := fun keep hkeep => by simpa [keepFor, hkeep] using h.keep_length
      order_nodup := fun order horder => by simpa [orderFor, horder] using h.order_nodup
      order_lt := fun order horder => by simpa [orderFor, horder] using h.order_lt }
  · intro h
    refine ⟨h.schema_length, h.names_eq, h.sources_eq, ?_, ?_, ?_⟩
    · rcases hkeep : d.keep with _ | keep
      · simp [keepFor, hkeep]
      · simpa [keepFor, hkeep] using h.keep_length keep hkeep
    · rcases horder : d.order with _ | order
      · simp [orderFor, horder]
      · simpa [orderFor, horder] using h.order_lt order horder
    · rcases horder : d.order with _ | order
      · simpa [orderFor, horder] using List.nodup_range
      · simpa [orderFor, horder] using h.order_nodup order horder

/-! ### Drafts that are turned down -/

/-- The number of entries of a list. -/
def count (d : Draft) : AlignedList → ℕ
  | .schema => d.schema.length
  | .paths => d.paths.length
  | .names => d.names.length

/-- **The complaints that are true of a draft.** -/
inductive Misfit (d : Draft) (raw : RawSpec) : ConfigFault → Prop
  /-- A list is shorter or longer than the union. -/
  | count (list : AlignedList) (h : d.count list ≠ raw.union.length) :
    Misfit d raw (.entryCount list (d.count list) raw.union.length)
  /-- There is another name at the place of a column. -/
  | name {i : ℕ} {c : Column} {n : String} (hc : raw.union[i]? = some c)
    (hn : d.names[i]? = some n) (h : n ≠ c.name) : Misfit d raw (.wrongName n i c.name)
  /-- The path at the place of a column starts at another type. -/
  | source {i : ℕ} {c : Column} {p : ConversionPath} (hc : raw.union[i]? = some c)
    (hp : d.paths[i]? = some p) (h : p.source ≠ c.type) :
    Misfit d raw (.wrongSource p.converter c.name c.type)
  /-- There are fewer or more flags than columns. -/
  | keep (h : (d.keepFor raw).length ≠ raw.union.length) :
    Misfit d raw (.keepCount (d.keepFor raw).length raw.union.length)
  /-- The order has a place twice, or one that there is not. -/
  | order (h : ¬((∀ i ∈ d.orderFor raw, i < raw.union.length) ∧ (d.orderFor raw).Nodup)) :
    Misfit d raw (.noPermutation (d.orderFor raw) raw.union.length)

theorem checkCount_eq_error_iff {list : AlignedList} {found expected : ℕ} {cause : ConfigFault} :
    checkCount list found expected = .error cause ↔
      found ≠ expected ∧ cause = .entryCount list found expected := by
  rw [checkCount]
  by_cases h : found = expected
  · simp [h]
  · simp [h, eq_comm]

/-- The check of names and paths ends at a column that one of them does not fit. -/
theorem exists_of_checkColumns_eq_error {cs : List Column} {ns : List String}
    {ps : List ConversionPath} {place : ℕ} {cause : ConfigFault}
    (h : checkColumns place cs ns ps = .error cause) :
    ∃ i c n p, cs[i]? = some c ∧ ns[i]? = some n ∧ ps[i]? = some p ∧
      ((n ≠ c.name ∧ cause = .wrongName n (place + i) c.name) ∨
        (n = c.name ∧ p.source ≠ c.type ∧
          cause = .wrongSource p.converter c.name c.type)) := by
  fun_induction checkColumns place cs ns ps with
  | case1 place c cs n ns p ps hname =>
    exact ⟨0, c, n, p, rfl, rfl, rfl, .inl ⟨hname, (Except.error.inj h).symm⟩⟩
  | case2 place c cs n ns p ps hname hsource =>
    exact ⟨0, c, n, p, rfl, rfl, rfl,
      .inr ⟨not_not.1 hname, hsource, (Except.error.inj h).symm⟩⟩
  | case3 place c cs n ns p ps hname hsource ih =>
    obtain ⟨i, c, n, p, hc, hn, hp, hcause⟩ := ih h
    refine ⟨i + 1, c, n, p, hc, hn, hp, ?_⟩
    rwa [← Nat.add_assoc, Nat.add_right_comm]
  | case4 => exact absurd h.symm error_ne_ok

/-- **A draft is turned down with a complaint that is true of it.** -/
theorem misfit_of_check_eq_error {cause : ConfigFault} (h : d.check raw = .error cause) :
    d.Misfit raw cause := by
  rw [check] at h
  simp only [bind_eq_error_iff, checkCount_eq_error_iff, throw_guard_eq_error_iff] at h
  -- one case for each check, in the order in which they are made
  rcases h with ⟨h, rfl⟩ | ⟨-, -, ⟨h, rfl⟩ | ⟨-, -, ⟨h, rfl⟩ | ⟨-, -, h |
    ⟨-, -, ⟨h, rfl⟩ | ⟨-, ⟨h, rfl⟩ | ⟨-, h⟩⟩⟩⟩⟩⟩
  · exact .count .schema h
  · exact .count .paths h
  · exact .count .names h
  · obtain ⟨i, c, n, p, hc, hn, hp, ⟨hname, rfl⟩ | ⟨-, hsource, rfl⟩⟩ :=
      exists_of_checkColumns_eq_error h
    · rw [Nat.zero_add]
      exact .name hc hn hname
    · exact .source hc hp hsource
  · exact .keep h
  · refine .order fun hfits => absurd h ?_
    rw [Bool.not_eq_true', Bool.not_eq_false]
    exact isOrder_eq_true_iff.2 hfits
  · exact absurd h.symm error_ne_ok

/-- **A draft becomes a configuration** exactly if it has an item and lines up. -/
theorem exists_build_eq_ok_iff : (∃ c, d.build = .ok c) ↔
    ∃ raw, RawSpec.ofItems? d.items = some raw ∧ d.LinesUp raw := by
  simp only [build_eq_ok_iff, fits_iff_linesUp]
  constructor
  · rintro ⟨c, raw, hraw, hfits, -⟩
    exact ⟨raw, hraw, hfits⟩
  · rintro ⟨raw, hraw, hfits⟩
    exact ⟨d.configFor raw, raw, hraw, hfits, rfl⟩

/-- **Else it has no item, or the complaint is true of it.** -/
theorem build_eq_error {fault : Fault} (h : d.build = .error fault) :
    (d.items.entries = [] ∧ fault = .emptySourceGroup) ∨
      ∃ raw cause, RawSpec.ofItems? d.items = some raw ∧ fault = .invalidConfig cause ∧
        d.Misfit raw cause := by
  rw [build] at h
  rcases hraw : RawSpec.ofItems? d.items with _ | raw <;> rw [hraw] at h
  · exact .inl ⟨RawSpec.ofItems?_eq_none_iff.1 hraw, (Except.error.inj h).symm⟩
  · obtain ⟨cause, hcause, rfl⟩ := mapError_eq_error_iff.1 h
    exact .inr ⟨raw, cause, rfl, rfl, misfit_of_check_eq_error hcause⟩

end Draft

/-! ### Configurations -/

namespace Config

/-- **What the lists have at a place,** each asked for itself; nothing if one of them ends in front
of it. -/
def slotAt? (c : Config) (i : ℕ) : Option Slot := do
  let name ← c.rawNames[i]?
  let output ← c.schema[i]?
  let path ← c.paths[i]?
  let keep ← c.keepFlags[i]?
  return ⟨i, ⟨name, output, path, keep⟩⟩

/-- **Whoever reads the lists at a place finds something there.** -/
structure Safe (c : Config) : Prop where
  anchor_le : c.anchor ≤ (c.raw.relevant c.mode).length
  /-- The output is read by walking the order: all lists have an entry at every place, and the slots
  are the entries that are kept. -/
  slots : ∃ mapped : List Slot, c.order.map c.slotAt? = mapped.map some ∧
    c.slots = mapped.filter fun s => s.setting.keep
  /-- No column is read twice. -/
  rawIndices_nodup : (c.slots.map Slot.rawIndex).Nodup
  /-- A slot is noted for each place of the order, and every place that the mode shows is looked up
  there. -/
  noted_lt : ∀ i, i ∈ c.order ∨ i ∈ Model.shownPlaces c → i < c.raw.union.length
  /-- A model is loaded from all of these places. -/
  loaded : (Model.shownPlaces c).map (Model.transformation? c) =
    (Model.ofConfig c).columns.map some

variable {c : Config} {i : ℕ}

theorem slotAt?_eq (c : Config) (i : ℕ) : c.slotAt? i = c.settings[i]?.map (Slot.mk i) := by
  simp only [slotAt?, rawNames, schema, paths, keepFlags, List.getElem?_map]
  rcases c.settings[i]? with _ | s
  · rfl
  · rfl

/-- The slots are the entries that are kept, in the order of their places. -/
theorem slots_eq_filter (c : Config) :
    c.slots = (c.order.filterMap c.slotAt?).filter fun s => s.setting.keep := by
  rw [slots, List.filter_filterMap]
  refine List.filterMap_congr fun i _ => ?_
  rw [slotAt?_eq, slot?]
  rcases c.settings[i]? with _ | s
  · rfl
  · rfl

section Places

variable (h : c.Aligned)
include h

/-- There is an entry at every place of the union. -/
theorem Aligned.exists_slotAt? (hi : i < c.raw.union.length) : ∃ s, c.slotAt? i = some ⟨i, s⟩ := by
  obtain ⟨-, s, -, hs⟩ := h.exists_setting hi
  exact ⟨s, by rw [slotAt?_eq, hs, Option.map_some]⟩

/-- A place of the order has its own entry. -/
theorem Aligned.map_rawIndex_slotAt? :
    (c.order.filterMap c.slotAt?).map Slot.rawIndex = c.order := by
  rw [List.map_filterMap]
  refine (List.filterMap_congr fun i hi => ?_).trans List.filterMap_some
  obtain ⟨s, hs⟩ := h.exists_slotAt? (h.order_lt i hi)
  rw [hs, Option.map_some]

/-- **A configuration that is aligned is safe.** -/
theorem Aligned.safe : c.Safe := by
  have hshown : ∀ i ∈ Model.shownPlaces c, i < c.raw.union.length := fun i hi =>
    Model.lt_of_mem_shownPlaces h.order_nodup hi
  have hentry : ∀ i ∈ c.order, ∃ s, c.slotAt? i = some s := fun i hi =>
    (h.exists_slotAt? (h.order_lt i hi)).imp' _ fun _ hs => hs
  have hloaded : ∀ i ∈ Model.shownPlaces c, ∃ t, Model.transformation? c i = some t :=
    fun i hi => by
      obtain ⟨d, s, hd, hs⟩ := h.exists_setting (hshown i hi)
      exact ⟨_, Model.transformation?_eq_some_iff.2 ⟨d, s, hd, hs, rfl⟩⟩
  have hnodup : (c.slots.map Slot.rawIndex).Nodup := by
    have hmapped : ((c.order.filterMap c.slotAt?).map Slot.rawIndex).Nodup :=
      h.map_rawIndex_slotAt?.symm ▸ h.order_nodup
    rw [slots_eq_filter]
    exact hmapped.sublist (List.filter_sublist.map _)
  exact {
    anchor_le := h.anchor_le
    slots := ⟨_, map_eq_map_some_filterMap hentry, c.slots_eq_filter⟩
    rawIndices_nodup := hnodup
    noted_lt := fun i hi => hi.elim (h.order_lt i) (hshown i)
    loaded := map_eq_map_some_filterMap hloaded }

end Places

end Config

namespace Draft

variable {d : Draft}

/-- **What becomes of a draft.** -/
structure Decided (d : Draft) : Prop where
  /-- It is accepted exactly if it has an item and its lists line up with the raw spec. -/
  accepted_iff : (∃ c, d.build = .ok c) ↔ d.items.entries ≠ [] ∧
    ∃ raw, RawSpec.ofItems? d.items = some raw ∧ d.LinesUp raw
  /-- It is turned down for its items exactly if it has none. -/
  empty_iff : d.build = .error .emptySourceGroup ↔ d.items.entries = []
  /-- If it is turned down for something else, then for a complaint that is true of it. -/
  refused : ∀ fault, d.build = .error fault → fault ≠ .emptySourceGroup →
    ∃ raw cause, RawSpec.ofItems? d.items = some raw ∧ fault = .invalidConfig cause ∧
      d.Misfit raw cause
  /-- What it becomes has its lists, and is safe. -/
  safe : ∀ c, d.build = .ok c → c.rawNames = d.names ∧ c.schema = d.schema ∧ c.paths = d.paths ∧
    c.keepFlags = d.keepFor c.raw ∧ c.order = d.orderFor c.raw ∧ c.Safe

/-- **A draft is accepted exactly if it has an item and its lists line up,** and then whoever reads
the lists finds what they look for: the order and the places that the mode shows lie within all of
them, no column fills two slots, and the anchor is not behind the columns. Else it is turned down,
without items for this reason, and with items for a reason that is true of it. -/
theorem decided (d : Draft) : d.Decided := by
  refine ⟨?_, ?_, fun fault h hfault => ?_, fun c h => ?_⟩
  · rw [exists_build_eq_ok_iff, iff_and_self]
    rintro ⟨raw, hraw, -⟩ hnil
    exact absurd (hraw.symm.trans (RawSpec.ofItems?_eq_none_iff.2 hnil)) (Option.some_ne_none raw)
  · constructor
    · intro h
      rcases build_eq_error h with ⟨hnil, -⟩ | ⟨-, cause, -, hcause, -⟩
      · exact hnil
      · cases hcause
    · intro hnil
      rw [build, RawSpec.ofItems?_eq_none_iff.2 hnil]
  · exact (build_eq_error h).resolve_left fun hnil => hfault hnil.2
  · have hsafe := (aligned_of_build h).safe
    obtain ⟨raw, hraw, hfits, rfl⟩ := build_eq_ok_iff.1 h
    obtain ⟨hnames, hschema, hpaths, hkeep⟩ := hfits.map_settings
    exact ⟨hnames, hschema, hpaths, hkeep, rfl, hsafe⟩

/-- The first column would fill two slots, and the second none. -/
example : { Config.ordersDraft with order := some [0, 0] }.build =
    .error (.invalidConfig (.noPermutation [0, 0] 2)) := by
  decide +kernel

end Draft

end OneTable
