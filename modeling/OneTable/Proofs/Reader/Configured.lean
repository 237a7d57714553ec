import OneTable.Proofs.Config.Load
import OneTable.Reader.Basic

/-!
# What a reader is configured for

A reader is asked for a list of items. It uses the configuration that it keeps if this was made
for them, and else it scans them and makes a fresh one. Two things decide what comes of it.

The first is when a configuration was made for a list: exactly if the list is a *permutation* of
the names of its items (`OneTable.Config.isFor_iff_perm`), so that the order does not matter and
a list that names an item twice is never the one.

The second is what a scan finds: the items that were asked for, each once and in the order in
which they are first met, with the columns that the source tells
(`OneTable.mem_names_scanItems`, `OneTable.columns_of_mem_scanItems`). Of a list without
repetitions it finds the list (`OneTable.names_scanItems`), and then a configuration that is
made of what was found is made for the list. Of a list with repetitions it finds less, and no
configuration will do.

* `OneTable.isFor_scanned_iff` – **a configuration of what was scanned** was made for the list
  exactly if no item is named twice;
* `OneTable.Reader.configBy_eq_ok` – the configuration a reader uses is the one it kept or a
  fresh one;
* `OneTable.Reader.readInto_eq_ok_iff` – a reading is a reading with that configuration.
-/

namespace OneTable

/-! ### What a scan finds -/

section Scan

variable {scanner : Scanner} {found found' : Items} {w : Watch}

/-- **One step of a scan:** the item at hand is scanned and put in, and the scan goes on. -/
theorem scanMore_cons_eq_ok {item : String} {rest : List String}
    (h : (scanMore scanner found (item :: rest) w).1 = .ok found') :
    ∃ spec, scanner w.scans item = .ok spec ∧
      (scanMore scanner (found.insert item spec) rest w.step).1 = .ok found' := by
  rw [scanMore] at h
  split at h
  · exact absurd h error_ne_ok
  · split at h
    · exact absurd h error_ne_ok
    · next spec hspec => exact ⟨spec, hspec, h⟩

theorem scanMore_nil_eq_ok (h : (scanMore scanner found [] w).1 = .ok found') :
    found' = found :=
  (Except.ok.inj (guard_eq_ok_iff.1 h).2).symm

theorem mem_names_scanMore {items : List String}
    (h : (scanMore scanner found items w).1 = .ok found') {n : String} :
    n ∈ found'.names ↔ n ∈ found.names ∨ n ∈ items := by
  induction items generalizing found w with
  | nil =>
    rw [scanMore_nil_eq_ok h]
    exact ⟨Or.inl, fun h => h.resolve_right List.not_mem_nil⟩
  | cons item rest ih =>
    obtain ⟨spec, -, hrest⟩ := scanMore_cons_eq_ok h
    rw [ih hrest, Items.mem_names_insert, List.mem_cons, or_assoc]

/-- Items that are new and differ are put one behind the other. -/
theorem names_scanMore {items : List String} (hd : (found.names ++ items).Nodup)
    (h : (scanMore scanner found items w).1 = .ok found') :
    found'.names = found.names ++ items := by
  induction items generalizing found w with
  | nil => rw [scanMore_nil_eq_ok h, List.append_nil]
  | cons item rest ih =>
    obtain ⟨spec, -, hrest⟩ := scanMore_cons_eq_ok h
    rw [← List.singleton_append, ← List.append_assoc] at hd
    have hnew : item ∉ found.names := fun hmem =>
      (List.nodup_append.1 (List.nodup_append.1 hd).1).2.2 _ hmem _ (List.mem_singleton_self _) rfl
    have hnames : (found.insert item spec).names = found.names ++ [item] :=
      Items.names_insert_of_notMem hnew
    rw [ih (by rwa [hnames]) hrest, hnames, List.append_assoc, List.singleton_append]

theorem columns_of_mem_scanMore {items : List String}
    (h : (scanMore scanner found items w).1 = .ok found') {e : String × TableSpec}
    (he : e ∈ found'.entries) : e ∈ found.entries ∨ ∃ n, scanner n e.1 = .ok e.2 := by
  induction items generalizing found w with
  | nil =>
    rw [scanMore_nil_eq_ok h] at he
    exact Or.inl he
  | cons item rest ih =>
    obtain ⟨spec, hspec, hrest⟩ := scanMore_cons_eq_ok h
    rcases ih hrest with hmem | hcols
    · rcases Items.mem_insertEntry hmem with rfl | hmem
      · exact Or.inr ⟨w.scans, hspec⟩
      · exact Or.inl hmem
    · exact Or.inr hcols

/-- A scan asks for the items of the list only. -/
theorem scanMore_congr {scanner' : Scanner} {items : List String}
    (h : ∀ item ∈ items, ∀ n, scanner' n item = scanner n item) :
    scanMore scanner' found items w = scanMore scanner found items w := by
  induction items generalizing found w with
  | nil => rfl
  | cons item rest ih =>
    obtain ⟨hitem, hrest⟩ := List.forall_mem_cons.1 h
    rw [scanMore, scanMore, hitem]
    rcases scanner w.scans item with trace | spec
    · rfl
    · simp only [ih hrest]

variable {source : Source} {items : List String}

/-- **A scan finds the same** in sources that tell the same columns of its items. -/
theorem scanItems_congr {source' : Source}
    (h : ∀ item ∈ items, source'.columns item = source.columns item) :
    scanItems source' items w = scanItems source items w :=
  scanMore_congr fun item hitem _ => h item hitem

/-- **A scan finds the items that it is asked for.** -/
theorem mem_names_scanItems (h : (scanItems source items w).1 = .ok found) {n : String} :
    n ∈ found.names ↔ n ∈ items :=
  (mem_names_scanMore h).trans ⟨fun h => h.resolve_left List.not_mem_nil, Or.inr⟩

/-- **A scan of different items finds them in order.** -/
theorem names_scanItems (hd : items.Nodup) (h : (scanItems source items w).1 = .ok found) :
    found.names = items := by
  have hnew : (Items.empty.names ++ items).Nodup := hd
  exact names_scanMore hnew h

/-- **What a scan finds is what the source tells.** -/
theorem columns_of_mem_scanItems (h : (scanItems source items w).1 = .ok found)
    {e : String × TableSpec} (he : e ∈ found.entries) : source.columns e.1 = .ok e.2 := by
  obtain ⟨_, hspec⟩ := (columns_of_mem_scanMore h he).resolve_left List.not_mem_nil
  exact hspec

/-- **What was scanned is the list that was asked for,** in some order, exactly if no item was
asked for twice. -/
theorem perm_names_scanItems_iff (h : (scanItems source items w).1 = .ok found) :
    items.Perm found.names ↔ items.Nodup :=
  ⟨fun hperm => hperm.nodup_iff.2 found.distinct,
    fun hd => List.Perm.of_eq (names_scanItems hd h).symm⟩

end Scan

/-! ### Configurations that are made for a list -/

namespace Config

variable {c c' : Config} {rootId : String} {items : Items}

/-- **A configuration was made for a list** exactly if the list is a permutation of the names
of its items. -/
theorem isFor_iff_perm {names : List String} :
    c.isFor rootId names = true ↔ c.rootId = rootId ∧ names.Perm c.items.names := by
  have hlength : c.items.names.length = c.items.length := List.length_map _
  simp only [isFor, Bool.and_eq_true, decide_eq_true_iff, List.all_eq_true,
    List.contains_iff_mem, and_assoc]
  refine and_congr_right fun _ => ⟨?_, fun h => ?_⟩
  · rintro ⟨hlen, -, hsub⟩
    -- the names of the items differ, so that they are all of the list
    have hle : names.length ≤ c.items.names.length := by omega
    exact ((List.subperm_of_subset c.items.distinct hsub).perm_of_length_le hle).symm
  · exact ⟨h.length_eq.trans hlength, fun n hn => h.mem_iff.1 hn, fun n hn => h.mem_iff.2 hn⟩

/-- A rendered configuration is made for the root and the items that it was rendered for. -/
theorem made_toConfig {m : Model} (h : m.toConfig rootId items = .ok c) :
    c.rootId = rootId ∧ c.items = items := by
  obtain ⟨raw, -, -, rfl⟩ := Draft.build_eq_ok_iff.1 h
  exact ⟨rfl, rfl⟩

theorem made_fresh {mode : FilterMode} (h : fresh rootId items mode = .ok c) :
    c.rootId = rootId ∧ c.items = items := by
  obtain ⟨raw, m, -, -, h⟩ := fresh_eq_ok_iff.1 h
  exact made_toConfig h

/-- A configuration that was carried over is made for its old root and the new items. -/
theorem made_reconcile (h : c.reconcile items = .ok c') :
    c'.rootId = c.rootId ∧ c'.items = items := by
  obtain ⟨raw, -, -, h⟩ := reconcile_eq_ok_iff.1 h
  exact made_toConfig h

end Config

/-- **A configuration of what was scanned** was made for the list that was asked for exactly if
no item was asked for twice. -/
theorem isFor_scanned_iff {source : Source} {items : List String} {w : Watch} {c : Config}
    (h : (scanItems source items w).1 = .ok c.items) :
    c.isFor c.rootId items = true ↔ items.Nodup := by
  rw [Config.isFor_iff_perm, perm_names_scanItems_iff h]
  exact and_iff_right rfl

/-! ### The reader -/

namespace Reader

variable {r r' : Reader} {scanner : Scanner} {source : Source} {root : String}
  {items : List String} {c : Config}

/-- A configuration that was made for the items is used again. -/
theorem configBy_of_isFor (hcached : r.cached = some c) (hfor : c.isFor root items = true) :
    r.configBy scanner root items = (.ok c, r) := by
  rw [configBy, hcached]
  exact if_pos hfor

/-- A configuration that was not made for the items is of no use. -/
theorem configBy_of_not_isFor (h : ∀ c, r.cached = some c → c.isFor root items = false) :
    r.configBy scanner root items = r.refresh scanner root items := by
  rw [configBy]
  rcases hcached : r.cached with _ | c
  · rfl
  · exact if_neg (by rw [h c hcached]; exact Bool.false_ne_true)

theorem configFor_of_isFor (hcached : r.cached = some c) (hfor : c.isFor root items = true) :
    r.configFor source root items = (.ok c, r) :=
  configBy_of_isFor hcached hfor

/-- **A configuration that was not made for the items is as good as none.** -/
theorem configFor_eq_of_not_isFor (hcached : r.cached = some c)
    (hfor : c.isFor root items = false) :
    r.configFor source root items = { r with cached := none }.configFor source root items := by
  refine (configBy_of_not_isFor fun k hk => ?_).trans rfl
  obtain rfl := Option.some.inj (hcached.symm.trans hk)
  exact hfor

/-- **A fresh configuration** is one of what was scanned, and it is kept. -/
theorem refresh_eq_ok (h : r.refresh scanner root items = (.ok c, r')) :
    r'.cached = some c ∧ ∃ found, (scanner.scan items r.watch).1 = .ok found ∧
      Config.fresh root found r.mode = .ok c := by
  simp only [refresh] at h
  split at h
  · next config hfresh =>
    obtain ⟨hc, rfl⟩ := Prod.mk.inj h
    obtain rfl := Except.ok.inj hc
    exact ⟨rfl, bind_eq_ok_iff.1 hfresh⟩
  · exact absurd (congrArg Prod.fst h) error_ne_ok

/-- **A fresh configuration of what is scanned** is used where none that is kept was made for the
items. -/
theorem configFor_of_fresh {found : Items} (h : ∀ k, r.cached = some k → k.isFor root items = false)
    (hfound : (scanItems source items r.watch).1 = .ok found)
    (hfresh : Config.fresh root found r.mode = .ok c) :
    (r.configFor source root items).1 = .ok c := by
  rw [configFor, configBy_of_not_isFor h, refresh]
  rcases hscan : source.scanner.scan items r.watch with ⟨result, w⟩
  obtain rfl : result = .ok found := (congrArg Prod.fst hscan).symm.trans hfound
  simp only [Except.bind, hfresh]

/-- **The configuration that a reader uses** is kept. It is the one that was kept before, and
this was made for the items; or it is a fresh one of what was scanned. -/
theorem configBy_eq_ok (h : r.configBy scanner root items = (.ok c, r')) :
    r'.cached = some c ∧
      ((r.cached = some c ∧ c.isFor root items = true) ∨
        ∃ found, (scanner.scan items r.watch).1 = .ok found ∧
          Config.fresh root found r.mode = .ok c) := by
  by_cases hkept : ∃ k, r.cached = some k ∧ k.isFor root items = true
  · obtain ⟨k, hcached, hfor⟩ := hkept
    rw [configBy_of_isFor hcached hfor] at h
    obtain ⟨hk, rfl⟩ := Prod.mk.inj h
    obtain rfl := Except.ok.inj hk
    exact ⟨hcached, Or.inl ⟨hcached, hfor⟩⟩
  · rw [configBy_of_not_isFor fun k hk => Bool.eq_false_iff.2 fun hfor =>
      hkept ⟨k, hk, hfor⟩] at h
    obtain ⟨hcached, hfresh⟩ := refresh_eq_ok h
    exact ⟨hcached, Or.inr hfresh⟩

/-- The same for the items of a source. -/
theorem configFor_eq_ok (h : r.configFor source root items = (.ok c, r')) :
    r'.cached = some c ∧
      ((r.cached = some c ∧ c.isFor root items = true) ∨
        ∃ found, (scanItems source items r.watch).1 = .ok found ∧
          Config.fresh root found r.mode = .ok c) :=
  configBy_eq_ok h

/-- The items of a configuration that was not kept stand in the order in which they were asked
for. -/
theorem kept_or_names_of_configFor (hd : items.Nodup)
    (h : r.configFor source root items = (.ok c, r')) :
    (r.cached = some c ∧ c.isFor root items = true) ∨ c.items.names = items := by
  refine (configFor_eq_ok h).2.imp_right ?_
  rintro ⟨found, hfound, hfresh⟩
  rw [(Config.made_fresh hfresh).2]
  exact names_scanItems hd hfound

/-! ### Readings -/

variable {σ : Type} {sink : Sink σ} {s s' : σ} {n : ℕ}

/-- A reader reads with the configuration that it uses. -/
theorem readInto_of_configFor (h : r.configFor source root items = (.ok c, r')) :
    r.readInto source root items sink s =
      ((c.readInto source sink s).1, (c.readInto source sink s).2, r') := by
  rw [readInto, h]

theorem readInto_congr {k : Reader}
    (h : r.configFor source root items = k.configFor source root items) :
    r.readInto source root items sink s = k.readInto source root items sink s := by
  rw [readInto, readInto, h]

/-- **A reading ends well** exactly if there is a configuration for the items, and the reading
with it ends well. -/
theorem readInto_eq_ok_iff :
    r.readInto source root items sink s = (.ok n, s', r') ↔
      ∃ c, r.configFor source root items = (.ok c, r') ∧
        c.readInto source sink s = (.ok n, s') := by
  constructor
  · intro h
    rcases hfor : r.configFor source root items with ⟨fault | c, k⟩
    · rw [readInto, hfor] at h
      exact absurd (congrArg Prod.fst h) error_ne_ok
    · rw [readInto_of_configFor hfor] at h
      obtain ⟨hresult, h⟩ := Prod.mk.inj h
      obtain ⟨hs, rfl⟩ := Prod.mk.inj h
      exact ⟨c, rfl, Prod.ext hresult hs⟩
  · rintro ⟨c, hfor, hread⟩
    rw [readInto_of_configFor hfor, hread]

end Reader

end OneTable
