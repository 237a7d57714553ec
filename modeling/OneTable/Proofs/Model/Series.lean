import Mathlib.Data.List.OfFn
import OneTable.Proofs.Model.Reconciliation

/-!
# Any number of reconciliations

Items come and go, and a model that nobody edits is reconciled again and again. Columns leave,
others turn up, and some of those that left come back; every time all positions are computed
anew. What is left at the end of what the user arranged at the beginning?

Reading the output from the left, there are first the columns that stood in front of the anchor
and have been shown all the time, then the *batches*, the latest first – a batch is what one raw
spec brought in, without what a later one did not show –, and then the columns that stood behind
the anchor and have been shown all the time. So whatever turns up is put behind the columns in
front of the anchor, and in front of whatever turned up before.

Nothing is remembered of a column that leaves. If it comes back it belongs to the batch of its
return, with the settings of a column nobody has edited.

The statement is kept by putting one more reconciliation *in front of* the series: the new
columns of the first one are columns behind the anchor for the rest.

* `OneTable.Model.reconcileAll`, `OneTable.Model.batch` – a series of reconciliations, and what
  each of them brings in;
* `OneTable.Model.CarriesThrough` – what a series should do, and
  `OneTable.Model.CarriesThrough.cons` – the step;
* `OneTable.Model.carriesThrough_of_reachable` – **what any number of reconciliations does.**
-/

namespace OneTable.Model

/-! ### Series -/

/-- A model carried over to one raw spec after the other. -/
def reconcileAll (m : Model) : List RawSpec → Model
  | [] => m
  | raw :: rs => reconcileAll (m.reconcile raw) rs

/-- A name that every raw spec of a series shows. -/
def ShownByAll (mode : FilterMode) (rs : List RawSpec) (n : String) : Prop :=
  ∀ raw ∈ rs, n ∈ raw.shownNames mode

instance (mode : FilterMode) (rs : List RawSpec) : DecidablePred (ShownByAll mode rs) :=
  fun n => inferInstanceAs (Decidable (∀ raw ∈ rs, n ∈ raw.shownNames mode))

/-- The names that a raw spec shows and the model does not have, in raw order. -/
def newNames (m : Model) (raw : RawSpec) : List String :=
  (raw.shownNames m.mode).filter (· ∉ m.names)

/-- **A batch:** what one raw spec of a series brings in, as far as all later ones show it. -/
def batch (m : Model) (rs : List RawSpec) (i : Fin rs.length) : List String :=
  ((m.reconcileAll (rs.take i)).newNames rs[i]).filter (ShownByAll m.mode (rs.drop (i + 1)))

/-- All batches of a series, the first one in front. -/
def batches (m : Model) (rs : List RawSpec) : List (List String) :=
  List.ofFn (m.batch rs)

section Equations

variable (m : Model) (mode : FilterMode) (raw : RawSpec) (rs : List RawSpec)

/-- A series of reconciliations is a run with no other call in it. -/
theorem reconcileAll_eq_run : m.reconcileAll rs = m.run (rs.map .reconcile) := by
  induction rs generalizing m with
  | nil => rfl
  | cons raw rs ih => exact ih (m.reconcile raw)

theorem shownByAll_cons {n : String} :
    ShownByAll mode (raw :: rs) n ↔ n ∈ raw.shownNames mode ∧ ShownByAll mode rs n :=
  List.forall_mem_cons

/-- What all raw specs of a series show is what the first and all others show. -/
theorem filter_shownByAll_cons (ns : List String) :
    ns.filter (ShownByAll mode (raw :: rs)) =
      (ns.filter (· ∈ raw.shownNames mode)).filter (ShownByAll mode rs) := by
  rw [List.filter_filter]
  refine List.filter_congr fun n _ => ?_
  rw [← Bool.decide_and]
  exact decide_eq_decide.2 ((shownByAll_cons mode raw rs).trans and_comm)

@[simp]
theorem filter_shownByAll_nil (ns : List String) : ns.filter (ShownByAll mode []) = ns :=
  List.filter_eq_self.2 fun _ _ => decide_eq_true fun _ h => absurd h List.not_mem_nil

@[simp]
theorem batches_nil : m.batches [] = [] := rfl

/-- The batches after the first are those of the rest of the series. -/
@[simp]
theorem batches_cons : m.batches (raw :: rs) =
    (m.newNames raw).filter (ShownByAll m.mode rs) :: (m.reconcile raw).batches rs :=
  List.ofFn_succ

end Equations

/-! ### What a series does -/

/-- **A model comes out of a series of reconciliations** of an old one. -/
structure CarriesThrough (old : Model) (rs : List RawSpec) (new : Model) : Prop where
  mode_eq : new.mode = old.mode
  keepUnknown_eq : new.keepUnknown = old.keepUnknown
  names_eq : new.names =
    (old.names.take old.anchor).filter (ShownByAll old.mode rs) ++
      (old.batches rs).reverse.flatten ++
      (old.names.drop old.anchor).filter (ShownByAll old.mode rs)
  anchor_eq : new.anchor = ((old.names.take old.anchor).filter (ShownByAll old.mode rs)).length
  /-- A column that is shown all the time has its keep flag and its output name. -/
  carried : ∀ t ∈ old.columns, ShownByAll old.mode rs t.name →
    ∃ u, new.get? t.name = some u ∧ u.keep = t.keep ∧ u.outputName = t.outputName
  /-- Any other column, also one that has come back, has its own name, and it is kept if
  columns that turn up are. -/
  discovered : ∀ u ∈ new.columns, ¬(u.name ∈ old.names ∧ ShownByAll old.mode rs u.name) →
    u.outputName = u.name ∧ u.keep = old.keepUnknown

variable {old mid new : Model} {raw : RawSpec} {rs : List RawSpec}

/-- A model that nothing is done to comes out as it is. -/
theorem carriesThrough_nil {m : Model} (h : m.Aligned) : m.CarriesThrough [] m where
  mode_eq := rfl
  keepUnknown_eq := rfl
  names_eq := by
    rw [filter_shownByAll_nil, filter_shownByAll_nil, batches_nil, List.reverse_nil,
      List.flatten_nil, List.append_nil, List.take_append_drop]
  anchor_eq := by
    rw [filter_shownByAll_nil, List.length_take, names, List.length_map]
    exact (Nat.min_eq_left h.anchor_le).symm
  carried t ht _ := ⟨t, (get?_eq_some_iff h.distinct).2 ⟨ht, rfl⟩, rfl, rfl⟩
  discovered u hu hout := by
    refine absurd ⟨List.mem_map_of_mem hu, fun _ h => ?_⟩ hout
    exact absurd h List.not_mem_nil

section Step

variable (hstep : old.CarriesOver raw old.mode mid)
include hstep

/-- In front of the new anchor stands what is left of what stood in front of the old one. -/
theorem CarriesOver.take_anchor : mid.names.take mid.anchor =
    (old.names.take old.anchor).filter (· ∈ raw.shownNames old.mode) := by
  rw [hstep.names_eq, hstep.anchor_eq, List.append_assoc, List.take_left]

/-- Behind the new anchor stand the new columns, and then what is left of the others. -/
theorem CarriesOver.drop_anchor : mid.names.drop mid.anchor =
    old.newNames raw ++ (old.names.drop old.anchor).filter (· ∈ raw.shownNames old.mode) := by
  rw [hstep.names_eq, hstep.anchor_eq, List.append_assoc, List.drop_left]
  rfl

/-- A column of the new model is one that the old model has and the raw spec shows, or it has
the settings of a column nobody has edited. -/
theorem CarriesOver.known_or_standard {n : String} (hn : n ∈ mid.names) :
    (n ∈ old.names ∧ n ∈ raw.shownNames old.mode) ∨
      ∃ v ∈ mid.columns, v.name = n ∧ v.keep = old.keepUnknown ∧ v.outputName = n := by
  rw [hstep.names_eq, List.mem_append, List.mem_append, List.mem_filter, List.mem_filter,
    List.mem_filter, decide_eq_true_iff, decide_eq_true_iff] at hn
  rcases hn with (⟨hold, hshown⟩ | ⟨hshown, hnew⟩) | ⟨hold, hshown⟩
  · exact .inl ⟨List.mem_of_mem_take hold, hshown⟩
  · obtain ⟨c, hc, rfl⟩ := List.mem_map.1 hshown
    have hv := mem_of_get?_eq_some (hstep.discovered c hc hnew)
    exact .inr ⟨_, hv.1, rfl, rfl, rfl⟩
  · exact .inl ⟨List.mem_of_mem_drop hold, hshown⟩

end Step

/-- **One more reconciliation in front of a series.** -/
theorem CarriesThrough.cons (hold : old.Aligned) (hnew : new.names.Nodup)
    (hrest : (old.reconcile raw).CarriesThrough rs new) : old.CarriesThrough (raw :: rs) new := by
  have hstep : old.CarriesOver raw old.mode (old.reconcile raw) :=
    carriesOver_reslot hold.distinct raw old.mode
  have hmode : (old.reconcile raw).mode = old.mode := hstep.mode_eq
  have hbefore : ((old.reconcile raw).names.take (old.reconcile raw).anchor).filter
      (ShownByAll (old.reconcile raw).mode rs) =
      (old.names.take old.anchor).filter (ShownByAll old.mode (raw :: rs)) := by
    rw [hstep.take_anchor, hmode, filter_shownByAll_cons]
  refine ⟨hrest.mode_eq, hrest.keepUnknown_eq, ?_, ?_, fun t ht hall => ?_,
    fun u hu hout => ?_⟩
  · -- the new columns of the first step stand behind its anchor, and so behind all later ones
    rw [hrest.names_eq, hbefore, hstep.drop_anchor, List.filter_append, hmode, batches_cons,
      List.reverse_cons, List.flatten_append, List.flatten_singleton, filter_shownByAll_cons,
      filter_shownByAll_cons, List.append_assoc, List.append_assoc, List.append_assoc]
  · rw [hrest.anchor_eq, hbefore]
  · obtain ⟨hshown, hall⟩ := (shownByAll_cons _ _ _).1 hall
    obtain ⟨c, hc, hn⟩ := List.mem_map.1 hshown
    obtain ⟨v, hv, -, hkeep, hout, -⟩ := hstep.carried t ht c hc hn
    obtain ⟨hvmem, hvname⟩ := mem_of_get?_eq_some hv
    have hvt : v.name = t.name := hvname.trans hn
    obtain ⟨u, hu, hukeep, huout⟩ := hrest.carried v hvmem (by rwa [hvt, hmode])
    exact ⟨u, hvt ▸ hu, hukeep.trans hkeep, huout.trans hout⟩
  · by_cases hknown : u.name ∈ (old.reconcile raw).names ∧ ShownByAll old.mode rs u.name
    · -- the first step brought it in, and the others have kept its settings
      obtain ⟨hmem, hall⟩ := hknown
      rcases hstep.known_or_standard hmem with ⟨hmem, hshown⟩ | ⟨v, hv, hn, hkeep, hname⟩
      · exact absurd ⟨hmem, (shownByAll_cons _ _ _).2 ⟨hshown, hall⟩⟩ hout
      · obtain ⟨w, hw, hwkeep, hwout⟩ := hrest.carried v hv (by rwa [hn, hmode])
        obtain ⟨hwmem, hwname⟩ := mem_of_get?_eq_some hw
        obtain rfl : w = u := eq_of_key_eq hnew hwmem hu (hwname.trans hn)
        exact ⟨hwout.trans hname, hwkeep.trans hkeep⟩
    · exact hrest.discovered u hu hknown

/-- A series of reconciliations keeps a model aligned, as every run does. -/
theorem aligned_reconcileAll {m : Model} (h : m.Aligned) (rs : List RawSpec) :
    (m.reconcileAll rs).Aligned := by
  rw [reconcileAll_eq_run]
  exact keptByCalls_aligned.run h _

/-- **What a series of reconciliations does** to an aligned model. -/
theorem carriesThrough_reconcileAll {m : Model} (h : m.Aligned) (rs : List RawSpec) :
    m.CarriesThrough rs (m.reconcileAll rs) := by
  induction rs generalizing m with
  | nil => exact carriesThrough_nil h
  | cons raw rs ih =>
    have hmid : (m.reconcile raw).Aligned := aligned_reslot h.distinct raw m.mode
    exact (ih hmid).cons h (aligned_reconcileAll hmid rs).distinct

/-- **What any number of reconciliations does** to a model that comes up, with no edit in
between. -/
theorem carriesThrough_of_reachable {m : Model} (h : m.Reachable) (rs : List RawSpec) :
    m.CarriesThrough rs (m.reconcileAll rs) :=
  carriesThrough_reconcileAll h.aligned rs

/-- The model of two items, where the day comes out under another name. -/
def ordersRenamed : Model :=
  ordersModel.run [.rename "day" "date", .setAnchor 1]

theorem carriesThrough_of_reachable_orders : ordersRenamed.Reachable ∧
    ordersRenamed.CarriesThrough [ordersRetyped, ordersRaw]
      (ordersRenamed.reconcileAll [ordersRetyped, ordersRaw]) := by
  have h : ordersRenamed.Reachable :=
    ⟨ordersModel, _, Or.inl ⟨ordersRaw, .union, fresh_ordersRaw⟩, rfl⟩
  exact ⟨h, carriesThrough_of_reachable h [ordersRetyped, ordersRaw]⟩

/-- The day leaves and comes back, and its other name is forgotten. -/
example : (ordersRenamed.reconcileAll [ordersRetyped, ordersRaw]).keptNames =
    ["order", "day"] := by
  cbv

end OneTable.Model
