import Mathlib.Data.List.Perm.Basic
import OneTable.Model.Reconcile
import OneTable.Proofs.Lookup

/-!
# Ranking is reading in order

A model is carried over to another raw spec by walking the *new* columns: what is found is
put down with the position it had, the whole is sorted by these positions, and the ranks in
front of the anchor are counted. Nobody wants to reason about that. The same columns come up
in the same order when the *old* columns are walked and those that are gone are passed over,
and then nothing has to be sorted, and the columns in front of the anchor are simply the
first ones.

This file proves that the two walks agree. Both list the same pairs of a position and a
column, because names differ on either side; both are in the order of the positions, the
first by sorting and the second by itself; and there is only one list in order with given
entries.

* `OneTable.Model.carryBlock` – a block of old columns, without those that are gone;
* `OneTable.Model.ranked_eq_standing` – the two walks agree;
* `OneTable.Model.reslot_eq` – **a model carried over is three blocks**: what is left of the
  columns in front of the anchor, the new columns, what is left of the others.
-/

namespace OneTable.Model

/-- The columns of a block that a list of new columns still has, carried over. -/
def carryBlock (new : List Column) (block : List Transformation) : List Transformation :=
  block.filterMap fun t => (new.find? fun c => c.name = t.name).map t.carryOver

/-- What is left of the columns in front of the anchor. -/
def carriedBefore (m : Model) (new : List Column) : List Transformation :=
  carryBlock new (m.columns.take m.anchor)

/-- What is left of the columns behind the anchor. -/
def carriedBehind (m : Model) (new : List Column) : List Transformation :=
  carryBlock new (m.columns.drop m.anchor)

/-- The old columns that are still there, in output order: each carried over, with its
position. The positions are counted from `k`. -/
def standing (new : List Column) (k : ℕ) (block : List Transformation) :
    List (ℕ × Transformation) :=
  (block.zipIdx k).filterMap fun p =>
    (new.find? fun c => c.name = p.1.name).map fun c => (p.2, p.1.carryOver c)

section Blocks

variable (new : List Column)

theorem carryBlock_append (b₁ b₂ : List Transformation) :
    carryBlock new (b₁ ++ b₂) = carryBlock new b₁ ++ carryBlock new b₂ :=
  List.filterMap_append

theorem carryBlock_cons (t : Transformation) (block : List Transformation) :
    carryBlock new (t :: block) =
      ((new.find? fun c => c.name = t.name).map t.carryOver).toList ++ carryBlock new block := by
  rw [carryBlock, List.filterMap_cons]
  generalize Option.map _ _ = o
  cases o <;> rfl

/-- What is left on both sides of the anchor is what is left of the whole. -/
theorem carriedBefore_append_carriedBehind (m : Model) :
    m.carriedBefore new ++ m.carriedBehind new = carryBlock new m.columns := by
  rw [carriedBefore, carriedBehind, ← carryBlock_append, List.take_append_drop]

theorem standing_append (k : ℕ) (b₁ b₂ : List Transformation) :
    standing new k (b₁ ++ b₂) = standing new k b₁ ++ standing new (k + b₁.length) b₂ := by
  rw [standing, List.zipIdx_append, List.filterMap_append]
  rfl

/-- One column gives one pair at most. -/
theorem standing_singleton (k : ℕ) (t : Transformation) :
    standing new k [t] =
      ((new.find? fun c => c.name = t.name).map fun c => (k, t.carryOver c)).toList := by
  simp only [standing, List.zipIdx_singleton, List.filterMap_cons, List.filterMap_nil]
  cases new.find? fun c => c.name = t.name <;> rfl

/-- Without the positions, what is still standing is the block carried over. -/
theorem map_snd_standing (k : ℕ) (block : List Transformation) :
    (standing new k block).map Prod.snd = carryBlock new block := by
  -- the block is read off its numbered form, so that both sides walk the same list
  have hblock : block = (block.zipIdx k).map Prod.fst := (List.zipIdx_map_fst k block).symm
  conv_rhs => rw [carryBlock, hblock, List.filterMap_map]
  rw [standing, List.map_filterMap]
  refine List.filterMap_congr fun p _ => ?_
  rw [Option.map_map]
  rfl

variable {new}

theorem mem_standing {k : ℕ} {block : List Transformation} {r : ℕ × Transformation} :
    r ∈ standing new k block ↔ ∃ t i c, block[i]? = some t ∧
      (new.find? fun c => c.name = t.name) = some c ∧ r = (k + i, t.carryOver c) := by
  rw [standing, List.mem_filterMap]
  constructor
  · rintro ⟨⟨t, j⟩, hmem, hr⟩
    obtain ⟨hk, hj⟩ := List.mk_mem_zipIdx_iff_le_and_getElem?_sub.1 hmem
    obtain ⟨c, hc, rfl⟩ := Option.map_eq_some_iff.1 hr
    exact ⟨t, j - k, c, hj, hc, by rw [Nat.add_sub_cancel' hk]⟩
  · rintro ⟨t, i, c, hi, hc, rfl⟩
    refine ⟨(t, k + i), List.mk_mem_zipIdx_iff_le_and_getElem?_sub.2 ⟨by omega, ?_⟩, ?_⟩
    · rwa [Nat.add_sub_cancel_left]
    · exact Option.map_eq_some_iff.2 ⟨c, hc, rfl⟩

/-- What is standing has the positions of the block. -/
theorem fst_of_mem_standing {k : ℕ} {block : List Transformation} {r : ℕ × Transformation}
    (h : r ∈ standing new k block) : k ≤ r.1 ∧ r.1 < k + block.length := by
  obtain ⟨t, i, c, hi, -, rfl⟩ := mem_standing.1 h
  have hlt : i < block.length := (List.getElem?_eq_some_iff.1 hi).1
  exact ⟨Nat.le_add_right k i, Nat.add_lt_add_left hlt k⟩

/-- What is standing is in the order of the positions. -/
theorem pairwise_standing (k : ℕ) (block : List Transformation) :
    (standing new k block).Pairwise fun a b => a.1 < b.1 := by
  induction block generalizing k with
  | nil => exact List.Pairwise.nil
  | cons t block ih =>
    have happ := standing_append new k [t] block
    rw [List.singleton_append, List.length_singleton] at happ
    rw [happ, List.pairwise_append]
    refine ⟨?_, ih (k + 1), fun a ha b hb => ?_⟩
    · rw [standing_singleton]
      generalize Option.map _ _ = o
      cases o with
      | none => exact List.Pairwise.nil
      | some r => exact List.pairwise_singleton _ r
    · have h₁ := (fst_of_mem_standing ha).2
      have h₂ := (fst_of_mem_standing hb).1
      rw [List.length_singleton] at h₁
      omega

end Blocks

/-! ### The two walks agree -/

section Walks

variable {m : Model} {new : List Column}

theorem placed?_eq_some_iff (hm : m.names.Nodup) {n : String} {r : ℕ × Transformation} :
    m.placed? n = some r ↔ m.columns[r.1]? = some r.2 ∧ r.2.name = n := by
  obtain ⟨i, t⟩ := r
  have hname : ∀ u, m.columns[i]? = some u → m.names[i]? = some u.name := fun u hu => by
    rw [names, List.getElem?_map, hu, Option.map_some]
  rw [placed?]
  constructor
  · intro h
    rcases hp : m.position? n with _ | j <;> rcases hg : m.get? n with _ | u <;>
      rw [hp, hg] at h
    · exact absurd h (by simp)
    · exact absurd h (by simp)
    · exact absurd h (by simp)
    · obtain ⟨rfl, rfl⟩ : j = i ∧ u = t := by simpa using h
      have hj : m.names[j]? = some n := (position?_eq_some_iff hm).1 hp
      obtain ⟨v, hv, hvn⟩ : ∃ v, m.columns[j]? = some v ∧ v.name = n := by
        simpa [names] using hj
      obtain ⟨hu, hun⟩ := (get?_eq_some_iff hm).1 hg
      have huv : u = v :=
        eq_of_key_eq hm hu (List.mem_of_getElem? hv) (hun.trans hvn.symm)
      exact ⟨huv ▸ hv, hun⟩
  · rintro ⟨ht, rfl⟩
    rw [(position?_eq_some_iff hm).2 (hname t ht),
      (get?_eq_some_iff hm).2 ⟨List.mem_of_getElem? ht, rfl⟩]

theorem mem_carried (hm : m.names.Nodup) {r : ℕ × Transformation} :
    r ∈ m.carried new ↔
      ∃ c t, c ∈ new ∧ m.columns[r.1]? = some t ∧ t.name = c.name ∧ r.2 = t.carryOver c := by
  rw [carried, List.mem_filterMap]
  constructor
  · rintro ⟨c, hc, hr⟩
    obtain ⟨⟨i, t⟩, hp, rfl⟩ := Option.map_eq_some_iff.1 hr
    obtain ⟨hi, hn⟩ := (placed?_eq_some_iff hm).1 hp
    exact ⟨c, t, hc, hi, hn, rfl⟩
  · rintro ⟨c, t, hc, hi, hn, hr⟩
    refine ⟨c, hc, Option.map_eq_some_iff.2 ⟨(r.1, t), ?_, ?_⟩⟩
    · exact (placed?_eq_some_iff hm).2 ⟨hi, hn⟩
    · exact Prod.ext rfl hr.symm

/-- No column is put down twice, because the new names differ. -/
theorem nodup_carried (hnew : (new.map Column.name).Nodup) : (m.carried new).Nodup := by
  have hnames : ((m.carried new).map fun r => r.2.name).Sublist (new.map Column.name) := by
    rw [carried, List.map_filterMap]
    induction new with
    | nil => exact List.Sublist.slnil
    | cons c new ih =>
      rw [List.filterMap_cons, List.map_cons]
      have hrest := ih (List.nodup_cons.1 hnew).2
      rcases m.placed? c.name with _ | ⟨i, t⟩
      · exact hrest.cons c.name
      · exact hrest.cons_cons c.name
  exact List.Nodup.of_map _ (hnew.sublist hnames)

/-- **The two walks agree.** -/
theorem ranked_eq_standing (hm : m.names.Nodup) (hnew : (new.map Column.name).Nodup) :
    m.ranked new = standing new 0 m.columns := by
  have hstand : (standing new 0 m.columns).Pairwise fun a b => a.1 < b.1 :=
    pairwise_standing 0 m.columns
  have hnodup : (standing new 0 m.columns).Nodup :=
    hstand.imp fun h hc => absurd h (by rw [hc]; exact Nat.lt_irrefl _)
  -- both walks list the same pairs
  have hmem : ∀ r, r ∈ m.carried new ↔ r ∈ standing new 0 m.columns := by
    intro r
    rw [mem_carried hm, mem_standing]
    constructor
    · rintro ⟨c, t, hc, hi, hn, hr⟩
      exact ⟨t, r.1, c, hi, (find?_key_eq_some_iff hnew).2 ⟨hc, hn.symm⟩,
        Prod.ext (Nat.zero_add r.1).symm hr⟩
    · rintro ⟨t, i, c, hi, hc, rfl⟩
      obtain ⟨hmem, hn⟩ := (find?_key_eq_some_iff hnew).1 hc
      exact ⟨c, t, hmem, by rwa [Nat.zero_add], hn.symm, rfl⟩
  have hperm : (m.ranked new).Perm (standing new 0 m.columns) :=
    (List.mergeSort_perm _ _).trans ((List.perm_ext_iff_of_nodup (nodup_carried hnew) hnodup).2 hmem)
  -- both are in order, and a list in order is its entries
  have hsorted : (m.ranked new).Pairwise fun a b => a.1 ≤ b.1 :=
    (List.pairwise_mergeSort (by simp; omega) (by simp; omega) _).imp (by simp)
  refine hperm.eq_of_pairwise (fun a b ha hb hab hba => ?_) hsorted (hstand.imp Nat.le_of_lt)
  obtain ⟨t, i, c, hi, hc, rfl⟩ := mem_standing.1 (hperm.subset ha)
  obtain ⟨t', j, c', hj, hc', rfl⟩ := mem_standing.1 hb
  obtain rfl : i = j := by
    simp only at hab hba
    omega
  obtain rfl : t = t' := Option.some.inj (hi.symm.trans hj)
  obtain rfl : c = c' := Option.some.inj (hc.symm.trans hc')
  rfl

end Walks

/-! ### The three blocks -/

/-- **A model carried over is three blocks:** what is left of the columns in front of the
anchor, the new columns, and what is left of the others. The anchor is the length of the
first block. -/
theorem reslot_eq {m : Model} (hm : m.names.Nodup) (raw : RawSpec) (mode : FilterMode) :
    m.reslot raw mode =
      ⟨raw,
        m.carriedBefore (raw.relevant mode) ++ m.discovered (raw.relevant mode) ++
          m.carriedBehind (raw.relevant mode),
        mode, m.keepUnknown, (m.carriedBefore (raw.relevant mode)).length⟩ := by
  have hranked := ranked_eq_standing hm (raw.distinct_relevant mode)
  generalize hnew : raw.relevant mode = new at hranked
  -- the positions in front of the anchor are those of the first block
  have hsplit : m.ranked new = standing new 0 (m.columns.take m.anchor) ++
      standing new (m.columns.take m.anchor).length (m.columns.drop m.anchor) := by
    rw [hranked, ← Nat.zero_add (m.columns.take m.anchor).length, ← standing_append,
      List.take_append_drop]
  have hcount : (m.ranked new).countP (fun r => r.1 < m.anchor) =
      (m.carriedBefore new).length := by
    rw [carriedBefore, hsplit, List.countP_append, List.countP_eq_length.2, List.countP_eq_zero.2,
      Nat.add_zero, ← map_snd_standing new 0, List.length_map]
    · intro r hr
      have hlow := (fst_of_mem_standing hr).1
      have hlen := (fst_of_mem_standing hr).2
      rw [List.length_take] at hlow hlen
      rw [List.length_drop] at hlen
      simp only [decide_eq_true_eq]
      omega
    · intro r hr
      have hlt := (fst_of_mem_standing hr).2
      rw [List.length_take] at hlt
      simp only [decide_eq_true_eq]
      omega
  have hold : (m.ranked new).map Prod.snd = m.carriedBefore new ++ m.carriedBehind new := by
    rw [hsplit, List.map_append, map_snd_standing, map_snd_standing, carriedBefore, carriedBehind]
  simp only [reslot, hnew, hcount, hold, List.take_left, List.drop_left]

end OneTable.Model
