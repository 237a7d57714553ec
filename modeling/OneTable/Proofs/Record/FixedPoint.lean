import OneTable.Proofs.Config.Rendering
import OneTable.Proofs.Record.RoundTrip

/-!
# What was loaded once is loaded again as it is

A configuration that was stored comes back with its types settled. One that was *loaded* has
nothing left to be settled, whatever it was loaded from: documents do not hold the types of
single items, so every decoder gives the columns their types by name, and types that are given
by name are the same in every item and in the union. It does not matter by which names and which
types – a legacy record may leave columns to the fallback type, name a path by its aliases, or
list an item twice – since all that is asked is that there is *one* type for each name.

So a document of any version may change its form when it is stored for the first time, but what
it says does not change, then or later.

* `OneTable.Record.typedBy_of_typedItems` – items of a record have their types by name;
* `OneTable.Config.settled_of_decode` – a configuration that was loaded is settled;
* `OneTable.Config.reload_eq_of_decode` – **storing and loading does nothing** to a
  configuration that was loaded, however often it is done.
-/

namespace OneTable

namespace Record

variable {entries : List (String × ColumnType)} {r : Record} {fallback : ColumnType}
  {c : Config}

/-! ### Types by name -/

/-- The type that a list of entries gives to a name, which is text for names it does not
have. -/
def typeIn (entries : List (String × ColumnType)) (n : String) : ColumnType :=
  (last? entries n).getD .string

/-- The columns of an item have the types of their names. -/
theorem typedBy_of_typedColumns {item : String} {ns : List String} {cs : List Column}
    (h : typedColumns entries item ns = .ok cs) : ∀ d ∈ cs, d.typedBy (typeIn entries) = d := by
  induction ns generalizing cs with
  | nil =>
    obtain rfl := Except.ok.inj h
    exact fun d hd => absurd hd List.not_mem_nil
  | cons n ns ih =>
    rw [typedColumns] at h
    rcases hn : last? entries n with _ | t <;> rw [hn] at h
    · exact absurd h error_ne_ok
    · obtain ⟨cs', hcs, rfl⟩ := map_eq_ok_iff.1 h
      refine List.forall_mem_cons.2 ⟨?_, ih hcs⟩
      have htype : typeIn entries n = t := by rw [typeIn, hn, Option.getD_some]
      exact congrArg (Column.ofType n) htype

/-- **The items of a record have their types by name,** also where one replaces another. -/
theorem typedBy_of_typedItems {is is' : Items} {rs : List RecordItem}
    (his : ∀ d ∈ is.columns, d.typedBy (typeIn entries) = d)
    (h : typedItems entries is rs = .ok is') :
    ∀ d ∈ is'.columns, d.typedBy (typeIn entries) = d := by
  induction rs generalizing is with
  | nil =>
    obtain rfl := Except.ok.inj h
    exact his
  | cons r rs ih =>
    rw [typedItems] at h
    rcases hcols : typedColumns entries r.item r.columns with _ | cs <;> rw [hcols] at h
    · exact absurd h error_ne_ok
    · refine ih (fun d hd => ?_) h
      rcases Items.mem_columns_insert hd with hd | hd
      · exact his d hd
      · exact typedBy_of_typedColumns hcols d hd

/-- The items of a decoded configuration have their types by name, in every version. -/
theorem exists_typedBy_of_decode (h : r.decode fallback = .ok c) :
    ∃ types, c.items.typedBy types = c.items := by
  have hitems : ∃ entries records, typedItems entries Items.empty records = .ok c.items := by
    rcases decode_eq_ok_iff.1 h with ⟨-, h⟩ | ⟨-, h⟩
    · obtain ⟨p, mode, columns, items, -, -, -, hitems, hb⟩ := decodeLegacy_eq_ok_iff.1 h
      obtain ⟨raw, -, -, rfl⟩ := Draft.build_eq_ok_iff.1 hb
      exact ⟨_, _, hitems⟩
    · obtain ⟨_, _, _, _, _, _, _, _, _, _, items, -, -, -, -, -, -, -, -, -, -, -, hitems, hb⟩ :=
        decodeCurrent_eq_ok_iff.1 h
      obtain ⟨raw, -, -, rfl⟩ := Draft.build_eq_ok_iff.1 hb
      exact ⟨_, _, hitems⟩
  obtain ⟨entries, records, hitems⟩ := hitems
  exact ⟨typeIn entries, Items.typedBy_eq_self (typedBy_of_typedItems
    (fun d hd => absurd hd List.not_mem_nil) hitems)⟩

end Record

namespace Config

variable {c : Config} {r : Record} {fallback : ColumnType}

/-- **A configuration that was loaded is settled.** -/
theorem settled_of_decode (h : r.decode fallback = .ok c) : c.settled = c := by
  have halign := (Record.aligned_of_decode h).1
  obtain ⟨types, hitems⟩ := Record.exists_typedBy_of_decode h
  exact (settled_eq_self_iff halign).2 (Items.settledBy_of_typedBy_eq halign.raw_eq hitems)

/-- A configuration that is stored and loaded again, with a fallback type. -/
def reload (c : Config) (fallback : ColumnType) : Except Fault Config :=
  (Record.ofConfig c).decode fallback

/-- A configuration that is a fixed point of storing and loading stays what it is. -/
theorem foldlM_reload (h : ∀ fallback, c.reload fallback = .ok c) (fallbacks : List ColumnType) :
    fallbacks.foldlM reload c = .ok c := by
  induction fallbacks with
  | nil => rfl
  | cons fallback fallbacks ih =>
    rw [List.foldlM_cons, h fallback]
    exact ih

/-- **Storing and loading does nothing to a configuration that was loaded,** from a record of any
version, with any fallback type, then and later. -/
theorem reload_eq_of_decode (h : r.decode fallback = .ok c) :
    (∀ fallback', c.reload fallback' = .ok c) ∧
      ∀ fallbacks, List.foldlM reload c fallbacks = .ok c := by
  obtain ⟨halign, hoff⟩ := Record.aligned_of_decode h
  have hreload : ∀ fallback', c.reload fallback' = .ok c := by
    intro fallback'
    rw [reload, Record.decode_ofConfig halign hoff, settled_of_decode h]
  exact ⟨hreload, foldlM_reload hreload⟩

/-- A legacy record of two regions, one of which is listed twice. It names a path by aliases, and
it says nothing about the day. -/
def legacyRecord : Record where
  rootId := some "sales"
  mergeMode := some "INTERSECTION"
  outputSchema := some [⟨"number", .integer⟩]
  rawNames := some ["order"]
  productionPaths := some ["int->long"]
  individualSpecs := some [⟨"east", ["order"]⟩, ⟨"west", ["order"]⟩, ⟨"east", ["order", "day"]⟩]

/-- What it is loaded as when columns it says nothing about are taken for dates. -/
def legacyConfig : Config where
  rootId := "sales"
  items := Model.ordersGroup
  raw := Model.ordersRaw
  settings := [⟨"order", ⟨"number", .integer⟩, .standard .integer, true⟩,
    ⟨"day", ⟨"day", .date⟩, .standard .date, false⟩]
  order := [0, 1]
  mode := .intersection
  keepUnknown := true
  anchor := 1

/-- The record that is written no longer depends on what the fallback type is. -/
theorem reload_eq_of_decode_legacy :
    legacyRecord.decode .date = .ok legacyConfig ∧
    (∀ fallback, legacyConfig.reload fallback = .ok legacyConfig) ∧
    ∀ fallbacks, List.foldlM reload legacyConfig fallbacks = .ok legacyConfig := by
  have hload : legacyRecord.decode .date = .ok legacyConfig := by decide +kernel
  exact ⟨hload, reload_eq_of_decode hload⟩

end Config

end OneTable
