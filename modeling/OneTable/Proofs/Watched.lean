import OneTable.Proofs.Config.Acceptance

/-!
# Builds that are watched

A list has no entry behind its end, and from a number nothing larger can be taken away. The
definitions of the library never get there, because they walk lists from the front. A program that
keeps the lists as tables does get there, if it asks for a place that a table does not have: it
gathers the union with a note of the place of every name, and it looks up the name and the path at
the place of each column.

Here both are said in this way. A watched run (`OneTable.Watched`) ends like any other, with a value
or a failure, or it *breaks*, and it breaks as soon as something is asked for that is not there. The
note of places always fits the union that is gathered (`OneTable.Gathering.indexed`), and the counts
of names and paths are taken before the first of them is looked up; so no build of a draft breaks,
and it ends as the walk along the lists does.

* `OneTable.Watched`, `OneTable.Watched.Runs` – runs that may break, and those that do not;
* `OneTable.Gathering.foldlM_add?` – **the union is gathered by places**;
* `OneTable.Draft.runs_watchColumns` – **names and paths are found at every place**;
* `OneTable.Draft.runs_watchBuild` – **no build of a draft breaks**.
-/

namespace OneTable

/-- **A run that is watched:** nothing if it breaks, and else how it ends. -/
abbrev Watched (ε : Type) : Type → Type :=
  ExceptT ε Option

/-- A difference, which breaks if more is taken away than there is. -/
def sub? (m n : ℕ) : Option ℕ :=
  if n ≤ m then some (m - n) else none

namespace Watched

variable {ε ε' α β : Type}

/-- A step that asks for nothing. -/
def step (x : Except ε α) : Watched ε α :=
  ExceptT.mk (some x)

/-- Asks for something that may not be there. -/
def ask (o : Option α) : Watched ε α :=
  ExceptT.mk (o.map .ok)

/-- **The run does not break,** and it ends in this way. -/
def Runs (w : Watched ε α) (x : Except ε α) : Prop :=
  w.run = some x

theorem runs_step (x : Except ε α) : Runs (step x) x :=
  rfl

theorem runs_pure (a : α) : Runs (pure a : Watched ε α) (.ok a) :=
  rfl

/-- A run and what is done behind it. -/
theorem Runs.bind {w : Watched ε α} {f : α → Watched ε β} {x : Except ε α}
    {g : α → Except ε β} (hw : Runs w x) (hf : ∀ a, x = .ok a → Runs (f a) (g a)) :
    Runs (w >>= f) (x >>= g) := by
  have hrun : (w >>= f).run = w.run.bind fun
      | .ok a => (f a).run
      | .error e => some (.error e) := rfl
  rw [Runs, hrun, hw]
  cases x with
  | ok a => exact hf a rfl
  | error e => rfl

/-- What is there can be asked for. -/
theorem Runs.ask_bind {o : Option α} {a : α} {f : α → Watched ε β} {x : Except ε β}
    (ho : o = some a) (hf : Runs (f a) x) : Runs (ask o >>= f) x := by
  subst ho
  exact hf

/-- A check in front of the rest. -/
theorem Runs.guard {p : Prop} [Decidable p] {e : ε} {f : β → Watched ε α} {w : Watched ε α}
    {x : Except ε α} (h : ¬p → Runs w x) :
    Runs (if p then (throw e : Watched ε β) >>= f else w) (if p then .error e else x) := by
  by_cases hp : p
  · rw [if_pos hp, if_pos hp]
    rfl
  · rw [if_neg hp, if_neg hp]
    exact h hp

/-- A failure that is reported in other words. -/
theorem Runs.adapt {w : Watched ε α} {x : Except ε α} (f : ε → ε') (h : Runs w x) :
    Runs (ExceptT.adapt f w) (x.mapError f) := by
  have hrun : (ExceptT.adapt f w).run = w.run.map (Except.mapError f) := rfl
  rw [Runs, hrun, h, Option.map_some]

end Watched

/-! ### The union with a note of places -/

namespace RawSpec

variable {c d : Column} {ds : List Column}

/-- A column is merged into the one of its name, wherever this stands. -/
theorem addColumn_of_getElem? {i : ℕ} (hd : (ds.map Column.name).Nodup) (hi : ds[i]? = some d)
    (hname : d.name = c.name) : addColumn c ds = ds.set i (d.merge c) := by
  induction ds generalizing i with
  | nil => exact absurd hi (by simp)
  | cons e es ih =>
    rw [List.map_cons, List.nodup_cons] at hd
    rw [addColumn]
    cases i with
    | zero =>
      obtain rfl := Option.some.inj hi
      rw [if_pos hname, List.set_cons_zero]
    | succ i =>
      have he : e.name ≠ c.name := fun he => hd.1 (he.trans hname.symm ▸
        List.mem_map_of_mem (List.mem_of_getElem? hi))
      rw [if_neg he, ih hd.2 hi, List.set_cons_succ]

/-- A column of a new name is put behind the others. -/
theorem addColumn_of_notMem (h : c.name ∉ ds.map Column.name) :
    addColumn c ds = ds ++ [c] := by
  induction ds with
  | nil => rfl
  | cons e es ih =>
    rw [List.map_cons, List.mem_cons, not_or] at h
    rw [addColumn, if_neg (Ne.symm h.1), ih h.2, List.cons_append]

end RawSpec

/-- Columns that are being gathered, and the place at which each name stands. -/
structure Gathering where
  union : List Column
  places : List (String × ℕ)

namespace Gathering

/-- Merges a column into the one at the place of its name, or puts it behind the others. -/
def add? (g : Gathering) (c : Column) : Option Gathering :=
  match g.places.find? fun e => e.1 = c.name with
  | some (_, i) => g.union[i]?.map fun d => ⟨g.union.set i (d.merge c), g.places⟩
  | none => some ⟨g.union ++ [c], g.places ++ [(c.name, g.union.length)]⟩

/-- The note that fits a union. -/
def indexed (ds : List Column) : Gathering :=
  ⟨ds, (ds.map Column.name).zipIdx⟩

variable {c : Column} {ds : List Column}

/-- **The note fits again when a column was added,** and the place that it names was there. -/
theorem add?_indexed (hd : (ds.map Column.name).Nodup) :
    (indexed ds).add? c = some (indexed (RawSpec.addColumn c ds)) := by
  have hkeys : ((ds.map Column.name).zipIdx.map Prod.fst) = ds.map Column.name :=
    List.zipIdx_map_fst 0 _
  rw [add?]
  rcases hfind : (indexed ds).places.find? fun e => e.1 = c.name with _ | ⟨n, i⟩
  · have hnew : c.name ∉ ds.map Column.name := hkeys ▸ find?_key_eq_none_iff.1 hfind
    rw [hfind, RawSpec.addColumn_of_notMem hnew, indexed, indexed, List.map_append,
      List.map_singleton, List.zipIdx_append, List.length_map, Nat.zero_add]
    rfl
  · -- the place was noted when the name came in
    obtain ⟨hmem, rfl⟩ := (find?_key_eq_some_iff (hkeys.symm ▸ hd)).1 hfind
    obtain ⟨d, hi, hname⟩ : ∃ d, ds[i]? = some d ∧ d.name = c.name := by
      have hplace := List.mem_zipIdx_iff_getElem?.1 hmem
      rw [List.getElem?_map] at hplace
      exact Option.map_eq_some_iff.1 hplace
    have hnames : (RawSpec.addColumn c ds).map Column.name = ds.map Column.name := by
      have hmem := List.mem_map_of_mem (f := Column.name) (List.mem_of_getElem? hi)
      rw [RawSpec.map_name_addColumn, if_pos (hname ▸ hmem)]
    have hunion : (indexed ds).union[i]? = some d := hi
    rw [hfind]
    dsimp only
    rw [hunion, Option.map_some, indexed, indexed, hnames,
      RawSpec.addColumn_of_getElem? hd hi hname]

/-- **The union is gathered by places** as it is gathered by names. -/
theorem foldlM_add? (cs : List Column) (hd : (ds.map Column.name).Nodup) :
    cs.foldlM add? (indexed ds) = some (indexed (RawSpec.gatherInto ds cs)) := by
  induction cs generalizing ds with
  | nil => rfl
  | cons c cs ih =>
    rw [List.foldlM_cons, add?_indexed hd]
    exact ih (RawSpec.nodup_addColumn c hd)

end Gathering

namespace RawSpec

/-- The raw spec of a union, which breaks if a name stands there twice. -/
def ofUnion? (is : Items) (union : List Column) : Option RawSpec :=
  if h : (union.map Column.name).Nodup then
    some ⟨union, union.filter fun c => is.shares c.name, h, List.filter_sublist⟩
  else none

/-- The raw spec of items, watched. -/
def watch (is : Items) : Watched Fault RawSpec := do
  if is.entries = [] then
    throw .emptySourceGroup
  let gathered ← Watched.ask (is.columns.foldlM Gathering.add? ⟨[], []⟩)
  Watched.ask <| ofUnion? is gathered.union

/-- **No raw spec breaks.** -/
theorem runs_watch (is : Items) :
    Watched.Runs (watch is) ((ofItems? is).elim (.error .emptySourceGroup) .ok) := by
  have hgathered : is.columns.foldlM Gathering.add? ⟨[], []⟩ =
      some (Gathering.indexed (gather is.columns)) :=
    Gathering.foldlM_add? is.columns List.nodup_nil
  have hunion : (gather is.columns |>.map Column.name).Nodup := nodup_gatherInto _ List.nodup_nil
  rw [watch, ofItems?]
  by_cases h : is.entries = []
  · rw [if_pos h, if_pos h]
    rfl
  · rw [if_neg h, if_neg h]
    refine Watched.Runs.ask_bind hgathered ?_
    rw [Watched.Runs, ofUnion?, Gathering.indexed, dif_pos hunion]
    rfl

end RawSpec

/-! ### Names and paths at their places -/

namespace Draft

/-- Asks for the name and the path at the place of each column. -/
def watchColumns (names : List String) (paths : List ConversionPath) :
    List (Column × ℕ) → Watched ConfigFault Unit
  | [] => pure ()
  | (c, i) :: cs => do
    let n ← Watched.ask names[i]?
    if n ≠ c.name then
      throw (.wrongName n i c.name)
    let p ← Watched.ask paths[i]?
    if p.source ≠ c.type then
      throw (.wrongSource p.converter c.name c.type)
    watchColumns names paths cs

/-- **Names and paths are found at every place,** if there are as many as there are columns. -/
theorem runs_watchColumns {names : List String} {paths : List ConversionPath} {cs : List Column}
    {k : ℕ} (hn : names.length = k + cs.length) (hp : paths.length = k + cs.length) :
    Watched.Runs (watchColumns names paths (cs.zipIdx k))
      (checkColumns k cs (names.drop k) (paths.drop k)) := by
  induction cs generalizing k with
  | nil => exact Watched.runs_pure ()
  | cons c cs ih =>
    rw [List.length_cons] at hn hp
    have hkn : k < names.length := by omega
    have hkp : k < paths.length := by omega
    have hrest := ih (k := k + 1) (by omega) (by omega)
    rw [List.zipIdx_cons, List.drop_eq_getElem_cons hkn, List.drop_eq_getElem_cons hkp,
      watchColumns, checkColumns]
    exact Watched.Runs.ask_bind (List.getElem?_eq_getElem hkn) <| Watched.Runs.guard fun _ =>
      Watched.Runs.ask_bind (List.getElem?_eq_getElem hkp) <| Watched.Runs.guard fun _ => hrest

/-- The checks of a draft, watched. -/
def watchCheck (d : Draft) (raw : RawSpec) : Watched ConfigFault Config := do
  let count := raw.union.length
  Watched.step (checkCount .schema d.schema.length count)
  Watched.step (checkCount .paths d.paths.length count)
  Watched.step (checkCount .names d.names.length count)
  watchColumns d.names d.paths raw.union.zipIdx
  if (d.keepFor raw).length ≠ count then
    throw (.keepCount (d.keepFor raw).length count)
  if !isOrder count (d.orderFor raw) then
    throw (.noPermutation (d.orderFor raw) count)
  return d.configFor raw

/-- The build of a draft, watched. -/
def watchBuild (d : Draft) : Watched Fault Config := do
  let raw ← RawSpec.watch d.items
  ExceptT.adapt .invalidConfig (d.watchCheck raw)

theorem runs_watchCheck (d : Draft) (raw : RawSpec) :
    Watched.Runs (d.watchCheck raw) (d.check raw) := by
  refine (Watched.runs_step _).bind fun _ _ => (Watched.runs_step _).bind fun _ hpaths =>
    (Watched.runs_step _).bind fun _ hnames => ?_
  have hcols : Watched.Runs (watchColumns d.names d.paths raw.union.zipIdx)
      (checkColumns 0 raw.union d.names d.paths) :=
    runs_watchColumns ((checkCount_eq_ok_iff.1 hnames).trans (Nat.zero_add _).symm)
      ((checkCount_eq_ok_iff.1 hpaths).trans (Nat.zero_add _).symm)
  exact hcols.bind fun _ _ => Watched.Runs.guard fun _ => Watched.Runs.guard fun _ =>
    Watched.runs_pure _

/-- **No build of a draft breaks.** -/
theorem runs_watchBuild (d : Draft) : Watched.Runs d.watchBuild d.build := by
  have hbuild : d.build = ((RawSpec.ofItems? d.items).elim (.error .emptySourceGroup) .ok) >>=
      fun raw => (d.check raw).mapError .invalidConfig := by
    rw [build]
    rcases RawSpec.ofItems? d.items with _ | raw
    · rfl
    · rfl
  rw [hbuild]
  exact (RawSpec.runs_watch d.items).bind fun raw _ =>
    (d.runs_watchCheck raw).adapt Fault.invalidConfig

end Draft

end OneTable
