import Mathlib.Data.List.Nodup
import OneTable.Config.Draft
import OneTable.Proofs.Lookup
import OneTable.Proofs.Result

/-!
# What the check of a draft accepts

A draft becomes a configuration when it fits the raw spec of its items. The check runs through
the lists of the draft one after the other and stops at the first that is wrong; what it
accepts can be said without any order: every list has an entry for each union column, the names
are the union's, every path starts at the type of its column, and no column fills two slots.

So a configuration, which can only come from a draft, is *aligned* with the raw spec of its
items, and this is all that anything else needs to know about it.

* `OneTable.Draft.Fits`, `OneTable.Draft.configFor` – what a draft has to be, and the
  configuration it becomes;
* `OneTable.Draft.build_eq_ok_iff` – **the check accepts exactly the drafts that fit**;
* `OneTable.Config.Aligned` – what is true of every configuration, with
  `OneTable.Draft.aligned_of_build`.
-/

namespace OneTable

namespace Draft

/-! ### The single checks -/

theorem checkCount_eq_ok_iff {list : AlignedList} {found expected : ℕ} {u : Unit} :
    checkCount list found expected = .ok u ↔ found = expected := by
  rw [checkCount]
  by_cases h : found = expected
  · rw [if_pos h]
    exact ⟨fun _ => h, fun _ => rfl⟩
  · rw [if_neg h]
    exact ⟨fun hc => absurd hc error_ne_ok, fun hc => absurd hc h⟩

/-- **Names and paths fit the columns** where no list is longer than the others. -/
theorem checkColumns_eq_ok_iff {cs : List Column} {ns : List String} {ps : List ConversionPath}
    (hn : ns.length = cs.length) (hp : ps.length = cs.length) (place : ℕ) {u : Unit} :
    checkColumns place cs ns ps = .ok u ↔
      ns = cs.map Column.name ∧ ps.map ConversionPath.source = cs.map Column.type := by
  induction cs generalizing ns ps place with
  | nil =>
    rw [List.length_eq_zero_iff.1 hn, List.length_eq_zero_iff.1 hp]
    exact ⟨fun _ => ⟨rfl, rfl⟩, fun _ => rfl⟩
  | cons c cs ih =>
    obtain ⟨n, ns, rfl⟩ := List.exists_cons_of_length_eq_add_one hn
    obtain ⟨p, ps, rfl⟩ := List.exists_cons_of_length_eq_add_one hp
    rw [checkColumns, guard_eq_ok_iff, guard_eq_ok_iff,
      ih (Nat.succ.inj hn) (Nat.succ.inj hp), not_not, not_not, List.map_cons, List.map_cons,
      List.map_cons, List.cons.injEq, List.cons.injEq]
    exact ⟨fun h => ⟨⟨h.1, h.2.2.1⟩, h.2.1, h.2.2.2⟩, fun h => ⟨h.1.1, h.2.1, h.1.2, h.2.2⟩⟩

theorem isOrder_eq_true_iff {count : ℕ} {order : List ℕ} :
    isOrder count order = true ↔ (∀ i ∈ order, i < count) ∧ order.Nodup := by
  simp [isOrder]

/-! ### The whole check -/

section Check

variable (d : Draft) (raw : RawSpec)

/-- The keep flags of a draft: everything is kept when nothing is said. -/
def keepFor : List Bool :=
  d.keep.getD (List.replicate raw.union.length true)

/-- The order of a draft: raw order when nothing is said. -/
def orderFor : List ℕ :=
  d.order.getD (List.range raw.union.length)

/-- **A draft fits a raw spec.** -/
structure Fits : Prop where
  schema_length : d.schema.length = raw.union.length
  names_eq : d.names = raw.union.map Column.name
  sources_eq : d.paths.map ConversionPath.source = raw.union.map Column.type
  keep_length : (d.keepFor raw).length = raw.union.length
  order_lt : ∀ i ∈ d.orderFor raw, i < raw.union.length
  order_nodup : (d.orderFor raw).Nodup

variable {d raw}

/-- A fitting draft has a name for each union column. -/
theorem Fits.names_length (h : d.Fits raw) : d.names.length = raw.union.length := by
  rw [h.names_eq, List.length_map]

/-- A fitting draft has a path for each union column. -/
theorem Fits.paths_length (h : d.Fits raw) : d.paths.length = raw.union.length := by
  have := congrArg List.length h.sources_eq
  rwa [List.length_map, List.length_map] at this

variable (d raw)

/-- The configuration that a draft becomes. -/
def configFor : Config where
  rootId := d.rootId
  items := d.items
  raw := raw
  settings := settings d.names d.schema d.paths (d.keepFor raw)
  order := d.orderFor raw
  mode := d.mode
  keepUnknown := d.keepUnknown
  anchor := min (d.anchor.getD (raw.relevant d.mode).length) (raw.relevant d.mode).length

variable {d raw}

/-- **The check accepts exactly the drafts that fit.** -/
theorem check_eq_ok_iff {c : Config} :
    d.check raw = .ok c ↔ d.Fits raw ∧ c = d.configFor raw := by
  -- what the checks ask for, in the order in which they are made
  have hsteps : d.check raw = .ok c ↔ d.schema.length = raw.union.length ∧
      d.paths.length = raw.union.length ∧ d.names.length = raw.union.length ∧
      (∃ u, checkColumns 0 raw.union d.names d.paths = .ok u) ∧
      (d.keepFor raw).length = raw.union.length ∧
      isOrder raw.union.length (d.orderFor raw) = true ∧ d.configFor raw = c := by
    rw [check]
    simp only [bind_eq_ok_iff, checkCount_eq_ok_iff, throw_guard_eq_ok_iff, exists_const,
      ne_eq, not_not, Bool.not_eq_true', Bool.not_eq_false, exists_and_right]
    exact ⟨fun h => ⟨h.1, h.2.1, h.2.2.1, h.2.2.2.1, h.2.2.2.2.1, h.2.2.2.2.2.1,
        Except.ok.inj h.2.2.2.2.2.2⟩,
      fun h => ⟨h.1, h.2.1, h.2.2.1, h.2.2.2.1, h.2.2.2.2.1, h.2.2.2.2.2.1,
        congrArg Except.ok h.2.2.2.2.2.2⟩⟩
  rw [hsteps]
  constructor
  · rintro ⟨hschema, hpaths, hnames, ⟨u, hcols⟩, hkeep, horder, rfl⟩
    obtain ⟨hn, hs⟩ := (checkColumns_eq_ok_iff hnames hpaths 0).1 hcols
    obtain ⟨hlt, hnd⟩ := isOrder_eq_true_iff.1 horder
    exact ⟨⟨hschema, hn, hs, hkeep, hlt, hnd⟩, rfl⟩
  · rintro ⟨h, rfl⟩
    have hcols : checkColumns 0 raw.union d.names d.paths = .ok () :=
      (checkColumns_eq_ok_iff h.names_length h.paths_length 0).2 ⟨h.names_eq, h.sources_eq⟩
    exact ⟨h.schema_length, h.paths_length, h.names_length, ⟨(), hcols⟩,
      h.keep_length, isOrder_eq_true_iff.2 ⟨h.order_lt, h.order_nodup⟩, rfl⟩

/-- **A draft becomes a configuration** exactly where its items have a raw spec that it
fits. -/
theorem build_eq_ok_iff {c : Config} :
    d.build = .ok c ↔
      ∃ raw, RawSpec.ofItems? d.items = some raw ∧ d.Fits raw ∧ c = d.configFor raw := by
  rw [build]
  constructor
  · intro h
    rcases hraw : RawSpec.ofItems? d.items with _ | raw <;> rw [hraw] at h
    · exact absurd h error_ne_ok
    · exact ⟨raw, rfl, check_eq_ok_iff.1 (mapError_eq_ok_iff.1 h)⟩
  · rintro ⟨raw, hraw, h⟩
    rw [hraw]
    exact mapError_eq_ok_iff.2 (check_eq_ok_iff.2 h)

end Check

/-! ### The lists of settings -/

section Settings

variable {ns : List String} {os : List OutputColumn} {ps : List ConversionPath} {ks : List Bool}

/-- Settings put together from four lists give the four lists back. -/
theorem map_settings (ho : os.length = ns.length) (hp : ps.length = ns.length)
    (hk : ks.length = ns.length) :
    (settings ns os ps ks).map Setting.rawName = ns ∧
      (settings ns os ps ks).map Setting.output = os ∧
      (settings ns os ps ks).map Setting.path = ps ∧
      (settings ns os ps ks).map Setting.keep = ks := by
  induction ns generalizing os ps ks with
  | nil =>
    rw [List.length_eq_zero_iff.1 ho, List.length_eq_zero_iff.1 hp, List.length_eq_zero_iff.1 hk]
    exact ⟨rfl, rfl, rfl, rfl⟩
  | cons n ns ih =>
    obtain ⟨o, os, rfl⟩ := List.exists_cons_of_length_eq_add_one ho
    obtain ⟨p, ps, rfl⟩ := List.exists_cons_of_length_eq_add_one hp
    obtain ⟨k, ks, rfl⟩ := List.exists_cons_of_length_eq_add_one hk
    obtain ⟨h₁, h₂, h₃, h₄⟩ := ih (Nat.succ.inj ho) (Nat.succ.inj hp) (Nat.succ.inj hk)
    exact ⟨congrArg (n :: ·) h₁, congrArg (o :: ·) h₂, congrArg (p :: ·) h₃,
      congrArg (k :: ·) h₄⟩

/-- Lists that are read off settings are put together to the same settings. -/
theorem settings_map (ss : List Setting) :
    settings (ss.map Setting.rawName) (ss.map Setting.output) (ss.map Setting.path)
      (ss.map Setting.keep) = ss := by
  induction ss with
  | nil => rfl
  | cons s ss ih => exact congrArg (s :: ·) ih

end Settings

end Draft

/-! ### Configurations -/

namespace Config

/-- **What is true of every configuration:** it is made for the raw spec of its items, has a
setting for each union column, and its order and its anchor point at columns that there
are. -/
structure Aligned (c : Config) : Prop where
  raw_eq : RawSpec.ofItems? c.items = some c.raw
  names_eq : c.rawNames = c.raw.union.map Column.name
  sources_eq : c.paths.map ConversionPath.source = c.raw.union.map Column.type
  order_lt : ∀ i ∈ c.order, i < c.raw.union.length
  order_nodup : c.order.Nodup
  anchor_le : c.anchor ≤ (c.raw.relevant c.mode).length

variable {c : Config}

theorem Aligned.length_settings (h : c.Aligned) : c.settings.length = c.raw.union.length := by
  have := congrArg List.length h.names_eq
  rwa [rawNames, List.length_map, List.length_map] at this

section Places

variable (h : c.Aligned) {i : ℕ}
include h

/-- There is a column with its setting at every place of the union. -/
theorem Aligned.exists_setting (hi : i < c.raw.union.length) :
    ∃ d s, c.raw.union[i]? = some d ∧ c.settings[i]? = some s :=
  ⟨_, _, List.getElem?_eq_getElem hi, List.getElem?_eq_getElem (h.length_settings.symm ▸ hi)⟩

variable {d : Column} {s : Setting} (hd : c.raw.union[i]? = some d) (hs : c.settings[i]? = some s)
include hd hs

/-- A setting bears the name of its column. -/
theorem Aligned.rawName_eq : s.rawName = d.name := by
  have := congrArg (·[i]?) h.names_eq
  simpa [rawNames, hs, hd] using this

/-- The path of a setting starts at the type of its column. -/
theorem Aligned.source_eq : s.path.source = d.type := by
  have := congrArg (·[i]?) h.sources_eq
  simpa [paths, hs, hd] using this

end Places

end Config

namespace Draft

variable {d : Draft} {raw : RawSpec} {c : Config}

/-- The lists of the configuration that a fitting draft becomes are those of the draft. -/
theorem Fits.map_settings (h : d.Fits raw) :
    (d.configFor raw).rawNames = d.names ∧ (d.configFor raw).schema = d.schema ∧
      (d.configFor raw).paths = d.paths ∧ (d.configFor raw).keepFlags = d.keepFor raw := by
  have hnames := h.names_length.symm
  exact Draft.map_settings (h.schema_length.trans hnames) (h.paths_length.trans hnames)
    (h.keep_length.trans hnames)

/-- **Every configuration that comes from a draft is aligned.** -/
theorem aligned_of_build (h : d.build = .ok c) : c.Aligned := by
  obtain ⟨raw, hraw, hfit, rfl⟩ := build_eq_ok_iff.1 h
  obtain ⟨hnames, -, hpaths, -⟩ := hfit.map_settings
  exact ⟨hraw, hnames.trans hfit.names_eq, hpaths ▸ hfit.sources_eq, hfit.order_lt,
    hfit.order_nodup, Nat.min_le_right _ _⟩

end Draft

end OneTable
