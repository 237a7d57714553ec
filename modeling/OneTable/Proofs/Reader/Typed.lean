import OneTable.Proofs.Config.Reloading
import OneTable.Proofs.Config.SameItems
import OneTable.Proofs.Reader.Evidence

/-!
# Rows have the types that the output announces

A configuration announces its output before there is a row: a name and a type for each slot. The
rows come later, from cells that nobody has seen. A cell is read as a value of the type that its
path comes from, and the value is carried to the type that the path leads to, so that three types
meet in a slot: the one that was announced, the one that the path leads to, and the one that the
value turns out to have.

The last two are the same for every path and every cell (`OneTable.ConversionPath.type_of_convert`).
That they are the announced one is a matter of the configuration, since a document may announce
what it likes; but a configuration that was rendered from a model announces what its paths lead to
(`OneTable.Config.typedByPaths_of_toConfig`), and storing it changes nothing in its slots.

A cell that has no value in a slot is at fault because of what it says, and not because of the
path. Reading it may fail, and carrying what was read never does: a path that is offered leads
from the type of its column to a type that this one leads to, and for each of these there is a way
to carry a value (`OneTable.ConversionPath.refuses_of_convert`).

* `OneTable.ColumnType.Refuses` – a cell is no value of a type;
* `OneTable.Slot.Holds` – a cell of a row has the type of its slot, if it is there;
* `OneTable.Config.KeepsTypes` – the rows of a configuration have the types that it announces, and
  fail only at cells that are refused;
* `OneTable.Config.keepsTypes_of_produced` – **they do,** for every configuration that comes up and
  for what it is loaded as after it was stored.
-/

namespace OneTable

/-! ### Values that are read -/

/-- **A type refuses a cell,** for a cause: the cell is no value of the type and, where this is the
type of instants, which also takes days, it is no day either. -/
structure ColumnType.Refuses (t : ColumnType) (text : String) (cause : CellFault) : Prop where
  unread : readCell text t = .error cause
  noDay : t = .dateTime → readDate? (Text.trim text.toList) = none

section Cells

variable {text : String} {t : ColumnType} {v : Value} {cause : CellFault}

/-- What is read as a value of a type is one. -/
theorem type_of_readPresent (h : readPresent text t = .ok v) : v.type = t := by
  cases t with
  | string => exact Except.ok.inj h ▸ rfl
  | integer =>
    obtain ⟨n, -, rfl⟩ := map_eq_ok_iff.1 (mapError_eq_ok_iff.1 h)
    rfl
  | float =>
    obtain ⟨x, -, rfl⟩ := map_eq_ok_iff.1 (mapError_eq_ok_iff.1 h)
    rfl
  | boolean =>
    obtain ⟨b, -, rfl⟩ := Option.map_eq_some_iff.1 (elim_eq_ok_iff.1 h)
    rfl
  | date =>
    obtain ⟨d, -, rfl⟩ := Option.map_eq_some_iff.1 (elim_eq_ok_iff.1 h)
    rfl
  | dateTime =>
    obtain ⟨d, -, rfl⟩ := Option.map_eq_some_iff.1 (elim_eq_ok_iff.1 h)
    rfl
  | guid =>
    obtain ⟨g, -, rfl⟩ := Option.map_eq_some_iff.1 (elim_eq_ok_iff.1 h)
    rfl

theorem type_of_readCell (h : readCell text t = .ok (some v)) : v.type = t := by
  rw [readCell] at h
  split at h
  · exact absurd (Except.ok.inj h) (Option.some_ne_none v).symm
  · obtain ⟨w, hw, hsame⟩ := map_eq_ok_iff.1 h
    exact type_of_readPresent (Option.some.inj hsame ▸ hw)

/-- A cell that is not read was not asked for anything but its own type. -/
theorem readPresent_ne_noConverter {source destination : ColumnType} :
    readPresent text t ≠ .error (.noConverter source destination) := by
  intro h
  cases t with
  | string => exact absurd h.symm error_ne_ok
  | integer =>
    obtain ⟨_, -, hcause⟩ := mapError_eq_error_iff.1 h
    cases hcause
  | float =>
    obtain ⟨_, -, hcause⟩ := mapError_eq_error_iff.1 h
    cases hcause
  | boolean => cases (elim_eq_error_iff.1 h).2
  | date => cases (elim_eq_error_iff.1 h).2
  | dateTime => cases (elim_eq_error_iff.1 h).2
  | guid => cases (elim_eq_error_iff.1 h).2

/-- **A refusal is about the cell,** and not about a path. -/
theorem ColumnType.Refuses.ne_noConverter (h : t.Refuses text cause)
    (source destination : ColumnType) : cause ≠ .noConverter source destination := by
  rintro rfl
  have hread := h.unread
  rw [readCell] at hread
  split at hread
  · exact absurd hread.symm error_ne_ok
  · rcases hpresent : readPresent text t with cause | v
    · rw [hpresent] at hread
      exact readPresent_ne_noConverter (hpresent.trans (congrArg _ (Except.error.inj hread)))
    · rw [hpresent] at hread
      exact absurd hread.symm error_ne_ok

namespace ConversionPath

/-! ### Values that are carried -/

/-- What is read for a path is a value of its source. -/
theorem type_of_readSource (h : readSource text t = .ok (some v)) : v.type = t := by
  rw [readSource] at h
  split at h
  · next w hread => exact type_of_readCell (hread.trans h)
  · split at h
    · next htype =>
      split at h
      · exact htype ▸ Option.some.inj (Except.ok.inj h) ▸ rfl
      · exact absurd h error_ne_ok
    · exact absurd h error_ne_ok

/-- **What is not read for a path is refused by its source.** -/
theorem refuses_of_readSource (h : readSource text t = .error cause) : t.Refuses text cause := by
  rw [readSource] at h
  split at h
  · exact absurd h.symm error_ne_ok
  · next e hread =>
    split at h
    · split at h
      · exact absurd h.symm error_ne_ok
      · next hday => exact ⟨hread.trans h, fun _ => hday⟩
    · next htype => exact ⟨hread.trans h, fun hc => absurd hc htype⟩

/-- What a value is carried to is a value of the type asked for. -/
theorem type_of_cast {w : Value} {d : ColumnType} (h : Value.cast v d = .ok w) : w.type = d := by
  unfold Value.cast at h
  split at h
  · next htype => exact Except.ok.inj h ▸ htype
  · split at h
    · exact Except.ok.inj h ▸ rfl
    · exact Except.ok.inj h ▸ rfl
    · exact Except.ok.inj h ▸ rfl
    · exact Except.ok.inj h ▸ rfl
    · exact absurd h error_ne_ok

variable {path : ConversionPath}

/-- **A cell is converted to a value of the type that the path leads to.** -/
theorem type_of_convert (h : path.convert text = .ok (some v)) : v.type = path.destination := by
  rw [convert] at h
  split at h
  · exact absurd (Except.ok.inj h) (Option.some_ne_none v).symm
  · split at h
    · next htext => exact htext ▸ Option.some.inj (Except.ok.inj h) ▸ rfl
    · split at h
      · exact absurd h error_ne_ok
      · exact absurd (Except.ok.inj h) (Option.some_ne_none v).symm
      · obtain ⟨w, hcast, hw⟩ := map_eq_ok_iff.1 h
        exact Option.some.inj hw ▸ type_of_cast hcast

/-- **A cell that is not converted along an offered path is refused** by the type that the path
comes from. -/
theorem refuses_of_convert (hpath : path ∈ available path.source)
    (h : path.convert text = .error cause) : path.source.Refuses text cause := by
  rw [convert] at h
  split at h
  · exact absurd h.symm error_ne_ok
  · split at h
    · exact absurd h.symm error_ne_ok
    · next htext =>
      split at h
      · next e hread => exact refuses_of_readSource (hread.trans h)
      · exact absurd h.symm error_ne_ok
      · next w hread =>
        -- a value of the source can be carried to wherever the source leads
        obtain ⟨d, hd, hbetween⟩ := List.mem_map.1 hpath
        have hleads : path.destination ∈ w.type.destinations := by
          rw [type_of_readSource hread, ← hbetween]
          exact hd
        obtain ⟨x, hx⟩ := exists_cast hleads htext
        rw [hx] at h
        exact absurd h.symm error_ne_ok

end ConversionPath

end Cells

/-! ### Rows -/

/-- **A cell of a row has the type of its slot,** if it is there. -/
def Slot.Holds (slot : Slot) (cell : Option Value) : Prop :=
  ∀ v, cell = some v → v.type = slot.setting.output.type

namespace Config

/-- **The rows of a configuration have the types that it announces,** whatever the source is. -/
structure KeepsTypes (c : Config) (source : Source) : Prop where
  /-- A row has one cell for each slot, which is missing or has the type of the slot. -/
  rows : ∀ row, .ok row ∈ c.stream source → List.Forall₂ Slot.Holds c.slots row
  /-- A fault of conversion is that of a cell in a row of an item, below the name of a slot, and
  the cell is refused by the type that the slot's path comes from. -/
  faults : ∀ name cell converter cause,
    .error (.conversion name cell converter cause) ∈ c.stream source →
    ∃ item spec rows cells slot, (item, spec) ∈ c.items.entries ∧ source.rows item = .ok rows ∧
      .ok cells ∈ rows ∧ slot ∈ c.slots ∧
      spec.cell? slot.setting.rawName cells = some cell ∧
      name = slot.setting.output.name ∧ converter = slot.setting.path.converter ∧
      slot.setting.path.source.Refuses cell cause
  /-- No fault is that of a path. -/
  converters : ∀ name cell converter s d,
    .error (.conversion name cell converter (.noConverter s d)) ∉ c.stream source

variable {c : Config} {source : Source}

/-- The values of a row have the types of the paths. -/
theorem TypedByPaths.holds (h : c.TypedByPaths) {slot : Slot} (hslot : slot ∈ c.slots)
    (spec : TableSpec) (cells : List String) : slot.Holds (slot.value? spec cells) := by
  intro v hv
  obtain ⟨cell, -, hconvert⟩ := Slot.value?_eq_some_iff.1 hv
  exact (ConversionPath.type_of_convert hconvert).trans (h slot hslot).symm

/-- **A configuration keeps the types that it announces** where they are those of its paths, and
its paths are offered. -/
theorem TypedByPaths.keepsTypes (h : c.TypedByPaths) (hoff : c.Offered) (source : Source) :
    c.KeepsTypes source := by
  have hfaults : ∀ name cell converter cause,
      .error (.conversion name cell converter cause) ∈ c.stream source →
      ∃ item spec rows cells slot, (item, spec) ∈ c.items.entries ∧ source.rows item = .ok rows ∧
        .ok cells ∈ rows ∧ slot ∈ c.slots ∧
        spec.cell? slot.setting.rawName cells = some cell ∧
        name = slot.setting.output.name ∧ converter = slot.setting.path.converter ∧
        slot.setting.path.source.Refuses cell cause := by
    intro name cell converter cause hfault
    obtain ⟨item, spec, rows, cells, hentry, hrows, hcells, hrow⟩ :=
      exists_row_of_mem_stream hfault nofun
    obtain ⟨slot, hslot, hslotFault⟩ := exists_slot_of_rowFor_eq_error hrow
    obtain ⟨_, _, hcell, hconvert, hsame⟩ := Slot.fault?_eq_some_iff.1 hslotFault
    obtain ⟨rfl, rfl, rfl, rfl⟩ := Fault.conversion.inj hsame
    have hpath := hoff _ (List.mem_map_of_mem (setting_mem_of_mem_slots hslot))
    exact ⟨item, spec, rows, cells, slot, hentry, hrows, hcells, hslot, hcell, rfl, rfl,
      ConversionPath.refuses_of_convert hpath hconvert⟩
  refine ⟨fun row hrow => ?_, hfaults, fun name cell converter s d hfault => ?_⟩
  · obtain ⟨_, spec, _, cells, -, -, -, hrow⟩ := exists_row_of_mem_stream hrow nofun
    rw [eq_of_rowFor_eq_ok hrow, List.forall₂_map_right_iff, List.forall₂_same]
    exact fun slot hslot => h.holds hslot spec cells
  · obtain ⟨_, _, _, _, _, -, -, -, -, -, -, -, hrefuses⟩ := hfaults _ _ _ _ hfault
    exact hrefuses.ne_noConverter s d rfl

/-! ### The configurations that come up -/

/-- **What is rendered from a model announces what its paths lead to.** -/
theorem typedByPaths_of_toConfig {m : Model} {rootId : String} {items : Items}
    (h : m.toConfig rootId items = .ok c) : c.TypedByPaths := by
  intro slot hslot
  have hsetting := setting_mem_of_mem_slots hslot
  rw [Model.settings_of_toConfig h] at hsetting
  obtain ⟨d, -, hd⟩ := List.mem_map.1 hsetting
  rw [← hd, Model.setting]
  split <;> rfl

theorem Produced.typedByPaths (h : c.Produced) : c.TypedByPaths := by
  cases h with
  | fresh h =>
    obtain ⟨raw, m, -, -, h⟩ := fresh_eq_ok_iff.1 h
    exact typedByPaths_of_toConfig h
  | rendered _ h => exact typedByPaths_of_toConfig h
  | reconciled _ h =>
    obtain ⟨raw, -, -, h⟩ := reconcile_eq_ok_iff.1 h
    exact typedByPaths_of_toConfig h

/-- **Rows have the types that the output announces,** for every configuration that comes up and
every source: each row has a cell for each slot, which is missing or a value of the type of the
slot, and a cell that cannot be converted is one that the type of its column refuses. The same is
true of the configuration that is loaded after this one was stored, whatever the fallback type is;
and this is what its document is loaded as, if the document is read as the record that it was
written for. -/
theorem keepsTypes_of_produced (h : c.Produced) (source : Source) (fallback : ColumnType) :
    c.KeepsTypes source ∧
      ∃ loaded, (Record.ofConfig c).decode fallback = .ok loaded ∧ loaded.KeepsTypes source ∧
        (Record.ofText c.document = .ok (Record.ofConfig c) →
          ofDocument c.document fallback = .ok loaded) := by
  obtain ⟨halign, hoff⟩ := h.aligned
  have htypes := h.typedByPaths
  have hdecode := Record.decode_ofConfig halign hoff fallback
  -- settling the types of the items leaves the slots and their paths alone
  have hsettled : c.settled.TypedByPaths := htypes
  refine ⟨htypes.keepsTypes hoff source, c.settled, hdecode, hsettled.keepsTypes hoff source, ?_⟩
  intro hread
  rw [ofDocument, hread]
  exact hdecode

/-- Days and instants again, with a row that is too short and a word that is no instant. -/
def noonSource : Source where
  columns _ := .ok ⟨[Column.ofType "day" .dateTime]⟩
  rows item :=
    if item = "east" then .ok [.ok ["2024-03-01"], .ok []]
    else .ok [.ok ["2024-03-02 10:30:00"], .ok ["noon"]]

/-- Instants come out as days, which are announced, and the word is refused by the type of
instants. -/
theorem keepsTypes_of_produced_days :
    daysConfig.Produced ∧ daysConfig.outputSchema = .ok [⟨"day", .date⟩] ∧
    daysConfig.stream noonSource =
      [.ok [(Date.of? 2024 3 1).map .date], .ok [none], .ok [(Date.of? 2024 3 2).map .date],
        .error (.conversion "day" "noon" "datetime->date" (.dateTime "noon"))] ∧
    daysConfig.KeepsTypes noonSource ∧
    ∃ loaded, (Record.ofConfig daysConfig).decode .string = .ok loaded ∧
      loaded.KeepsTypes noonSource ∧ ofDocument daysConfig.document .string = .ok loaded := by
  have hread : Record.ofText daysConfig.document = .ok (Record.ofConfig daysConfig) := by
    -- the document is read as it was written, character by character
    rw [Record.ofText, document, Record.text, Yaml.Tree.document, String.toList_ofList]
    decide +kernel
  have hstream : daysConfig.stream noonSource =
      [.ok [(Date.of? 2024 3 1).map .date], .ok [none], .ok [(Date.of? 2024 3 2).map .date],
        .error (.conversion "day" "noon" "datetime->date" (.dateTime "noon"))] := by
    rw [stream_eq_flatMap]
    decide +kernel
  obtain ⟨hkeeps, loaded, hdecode, hloaded, hdocument⟩ :=
    keepsTypes_of_produced produced_daysConfig noonSource .string
  exact ⟨produced_daysConfig, by decide +kernel, hstream, hkeeps, loaded, hdecode, hloaded,
    hdocument hread⟩

end Config

end OneTable
