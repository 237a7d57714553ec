import OneTable.Proofs.Model.Invariant
import OneTable.Proofs.Model.Reconciliation

/-!
# Moving a column

A move takes a column out of the list and puts it in again, at the place that was asked for or at
the end if there is none. What it does is therefore said by the *others*, that is by the columns of
other names, which are the same before the move and after it. From this follows what a user relies
on: a second move of the same column makes the first one undone, because it takes the same column
out of the same others; and a move to the place where the column stands does nothing. So a move
back to the old place restores the model.

A keyed model is moved by giving positions anew. Its entries stay where they are, and so they come
back as they were when their positions do.

* `OneTable.Model.others` – the columns of other names;
* `OneTable.Model.moveTo_moveTo` – **of two moves of a column the second counts**;
* `OneTable.Model.moveTo_position?` – a move to the own place does nothing;
* `OneTable.Model.names_moveTo` – the order of the columns after a move;
* `OneTable.Model.Moved`, `OneTable.KeyedModel.Moved` – what a move does, and what it leaves alone;
* `OneTable.Model.moved_of_reachable` – **every column can be moved anywhere**, in every model that
  comes up.
-/

namespace OneTable

namespace Model

variable {m m' : Model} {n : String} {p : ℕ}

/-- The columns of other names. -/
def others (m : Model) (n : String) : List Transformation :=
  m.columns.filter fun u => u.name ≠ n

/-- A column of the name is none of the others. -/
theorem others_of_append {front behind : List Transformation} {t : Transformation}
    (hm : m.names.Nodup) (hcolumns : m.columns = front ++ t :: behind) :
    m.others t.name = front ++ behind := by
  have hself : ∀ block : List Transformation, t.name ∉ block.map Transformation.name →
      (block.filter fun u => u.name ≠ t.name) = block := by
    intro block hblock
    refine List.filter_eq_self.2 fun u hu => decide_eq_true fun heq => hblock ?_
    exact heq ▸ List.mem_map_of_mem hu
  rw [names, hcolumns, List.map_append, List.map_cons, List.nodup_middle, List.nodup_cons,
    ← List.map_append] at hm
  have hnone := hm.1
  rw [List.map_append, List.mem_append, not_or] at hnone
  rw [others, hcolumns, List.filter_append, List.filter_cons_of_neg (by simp), hself _ hnone.1,
    hself _ hnone.2]

/-- **The others stay as they are.** -/
theorem others_moveTo (h : m.moveTo n p = .ok m') : m'.others n = m.others n := by
  obtain ⟨t, ht, rfl⟩ := moveTo_eq_ok_iff.1 h
  obtain ⟨-, rfl⟩ := mem_of_get?_eq_some ht
  have hall : ∀ u ∈ m.others t.name, decide (u.name ≠ t.name) = true :=
    fun u hu => (List.mem_filter.1 hu).2
  have hself : ∀ block, block ⊆ m.others t.name →
      (block.filter fun u => u.name ≠ t.name) = block :=
    fun block hblock => List.filter_eq_self.2 fun u hu => hall u (hblock hu)
  calc ((m.others t.name).take p ++ t :: (m.others t.name).drop p).filter fun u => u.name ≠ t.name
      = (m.others t.name).take p ++ (m.others t.name).drop p := by
        rw [List.filter_append, List.filter_cons_of_neg (by simp), hself _ (List.take_subset _ _),
          hself _ (List.drop_subset _ _)]
    _ = m.others t.name := List.take_append_drop p _

/-- **No setting changes.** -/
theorem get?_moveTo (hm : m.names.Nodup) (h : m.moveTo n p = .ok m') (k : String) :
    m'.get? k = m.get? k := by
  have hperm := columns_perm_moveTo hm h
  have hm' : m'.names.Nodup := (hperm.map Transformation.name).nodup_iff.2 hm
  refine Option.ext fun u => ?_
  rw [get?_eq_some_iff hm', get?_eq_some_iff hm, hperm.mem_iff]

/-- **Of two moves of a column the second counts.** -/
theorem moveTo_moveTo (hm : m.names.Nodup) (h : m.moveTo n p = .ok m') (q : ℕ) :
    m'.moveTo n q = m.moveTo n q := by
  have hget := get?_moveTo hm h n
  have hothers := others_moveTo h
  obtain ⟨t, ht, hmoved⟩ := moveTo_eq_ok_iff.1 h
  rw [others, others] at hothers
  rw [moveTo, moveTo, hget, ht]
  simp only [hothers]
  rw [hmoved]

/-- **A move to the own place does nothing.** -/
theorem moveTo_position? (hm : m.names.Nodup) (h : m.position? n = some p) :
    m.moveTo n p = .ok m := by
  rw [position?_eq_some_iff hm, names, List.getElem?_map] at h
  obtain ⟨t, ht, rfl⟩ := Option.map_eq_some_iff.1 h
  obtain ⟨hp, rfl⟩ := List.getElem?_eq_some_iff.1 ht
  have hcolumns : m.columns = m.columns.take p ++ m.columns[p] :: m.columns.drop (p + 1) := by
    rw [List.getElem_cons_drop, List.take_append_drop]
  have hothers := others_of_append hm hcolumns
  have hlength : (m.columns.take p).length = p := by
    rw [List.length_take, Nat.min_eq_left (Nat.le_of_lt hp)]
  refine moveTo_eq_ok_iff.2 ⟨m.columns[p], (get?_eq_some_iff hm).2 ⟨List.getElem_mem hp, rfl⟩, ?_⟩
  rw [others] at hothers
  simp only [hothers, List.take_left' hlength, List.drop_left' hlength, ← hcolumns]

/-- **The order of the columns after a move** is the order of the others, with the column put in. -/
theorem names_moveTo (hm : m.names.Nodup) (h : m.moveTo n p = .ok m') :
    m'.names = (m.names.erase n).insertIdx (min p (m.names.length - 1)) n := by
  have hname : n ∈ m.names := by
    obtain ⟨t, ht, -⟩ := moveTo_eq_ok_iff.1 h
    obtain ⟨hmem, rfl⟩ := mem_of_get?_eq_some ht
    exact List.mem_map_of_mem hmem
  have herase : m.names.filter (· ≠ n) = m.names.erase n := by
    rw [hm.erase_eq_filter]
    refine List.filter_congr fun k _ => ?_
    rw [Bool.eq_iff_iff, decide_eq_true_iff, bne_iff_ne]
  rw [names_of_moveTo h, herase, List.length_erase_of_mem hname]

/-! ### The models that come up -/

/-- **A column was moved:** it was taken out and put in again, and nothing else has changed. -/
structure Moved (m : Model) (n : String) (p : ℕ) (m' : Model) : Prop where
  /-- The place is the last one if there are not so many. -/
  names_eq : m'.names = (m.names.erase n).insertIdx (min p (m.names.length - 1)) n
  position_eq : m'.position? n = some (min p (m.names.length - 1))
  /-- The other columns keep their order. -/
  others_eq : m'.others n = m.others n
  settings_eq : ∀ k, m'.get? k = m.get? k
  raw_eq : m'.raw = m.raw
  mode_eq : m'.mode = m.mode
  keepUnknown_eq : m'.keepUnknown = m.keepUnknown
  anchor_eq : m'.anchor = m.anchor
  /-- Moving the column back to where it stood restores the model. -/
  back : ∃ q, m.position? n = some q ∧ m'.moveTo n q = .ok m

/-- Where every name is listed once, a move that succeeds moves its column and nothing else. -/
theorem moved_of_moveTo (hm : m.names.Nodup) (h : m.moveTo n p = .ok m') : m.Moved n p m' := by
  have hnames := names_moveTo hm h
  have hmem : n ∈ m.names := by
    obtain ⟨t, ht, -⟩ := moveTo_eq_ok_iff.1 h
    obtain ⟨hmem, rfl⟩ := mem_of_get?_eq_some ht
    exact List.mem_map_of_mem hmem
  have hm' : m'.names.Nodup :=
    ((columns_perm_moveTo hm h).map Transformation.name).nodup_iff.2 hm
  have hposition : m'.position? n = some (min p (m.names.length - 1)) := by
    rw [position?_eq_some_iff hm', hnames, List.getElem?_insertIdx_self,
      List.length_erase_of_mem hmem, if_pos (Nat.min_le_right _ _)]
  obtain ⟨q, hq⟩ : ∃ q, m.position? n = some q := by
    obtain ⟨q, hq⟩ := List.getElem?_of_mem hmem
    exact ⟨q, (position?_eq_some_iff hm).2 hq⟩
  have hback : m'.moveTo n q = .ok m := (moveTo_moveTo hm h q).trans (moveTo_position? hm hq)
  obtain ⟨hraw, hmode, hkeep, hanchor⟩ : m'.raw = m.raw ∧ m'.mode = m.mode ∧
      m'.keepUnknown = m.keepUnknown ∧ m'.anchor = m.anchor := by
    obtain ⟨t, -, rfl⟩ := moveTo_eq_ok_iff.1 h
    exact ⟨rfl, rfl, rfl, rfl⟩
  exact ⟨hnames, hposition, others_moveTo h, get?_moveTo hm h, hraw, hmode, hkeep, hanchor,
    q, hq, hback⟩

/-- A column that the model has can be moved. -/
theorem exists_moveTo (h : n ∈ m.names) (p : ℕ) : ∃ m', m.moveTo n p = .ok m' := by
  rcases ht : m.get? n with _ | t
  · exact absurd h (get?_eq_none_iff.1 ht)
  · rw [moveTo, ht]
    exact ⟨_, rfl⟩

end Model

/-! ### The same, by name -/

/-- **A column of a keyed model was moved:** positions were given anew, and nothing else has
changed. -/
structure KeyedModel.Moved (k : KeyedModel) (n : String) (p : ℕ) (k' : KeyedModel) : Prop where
  settings_eq : k'.entries.map Placed.settings = k.entries.map Placed.settings
  /-- The position is the last one if there are not so many. -/
  position_eq : (k'.find? n).map Placed.position = some (min p (k.entries.length - 1))
  raw_eq : k'.raw = k.raw
  mode_eq : k'.mode = k.mode
  keepUnknown_eq : k'.keepUnknown = k.keepUnknown
  anchor_eq : k'.anchor = k.anchor
  /-- Moving the column back to the position that it had restores the keyed model. -/
  back : ∃ e, k.find? n = some e ∧ k'.moveTo n e.position = (.ok (), k)

namespace KeyedModel.StandsFor

variable {k : KeyedModel} {m m' : Model} {n : String} {p : ℕ}

/-- **A move that succeeds moves the column of the keyed model,** and what it hands back stands for
the model that was moved. -/
theorem moved (h : k.StandsFor m) (hm : m.names.Nodup) (hmove : m.moveTo n p = .ok m') :
    ∃ k', k.moveTo n p = (.ok (), k') ∧ k'.StandsFor m' ∧ k.Moved n p k' := by
  have hmoved := Model.moved_of_moveTo hm hmove
  have hm' : m'.names.Nodup :=
    ((Model.columns_perm_moveTo hm hmove).map Transformation.name).nodup_iff.2 hm
  obtain ⟨k', hk', h'⟩ := (hmove ▸ h.moveTo hm n p).exists_done
  have hsettings : k'.entries.map Placed.settings = k.entries.map Placed.settings := by
    have hkept := map_settings_moveTo k n p
    rwa [hk'] at hkept
  obtain ⟨t, ht, -⟩ := Model.moveTo_eq_ok_iff.1 hmove
  have hposition : (k'.find? n).map Placed.position = some (min p (k.entries.length - 1)) := by
    have hlength : m.names.length = k.entries.length := by
      rw [h.length_eq, Model.names, List.length_map]
    rw [h'.find?_eq hm', Model.placed?, hmoved.position_eq, hmoved.settings_eq, ht, hlength]
    rfl
  have hback : ∃ e, k.find? n = some e ∧ k'.moveTo n e.position = (.ok (), k) := by
    obtain ⟨q, hq, hreturn⟩ := hmoved.back
    have hfind : k.find? n = some ⟨t, q⟩ := by
      rw [h.find?_eq hm, Model.placed?, hq, ht]
      rfl
    obtain ⟨k'', hk'', h''⟩ := (hreturn ▸ h'.moveTo hm' n q).exists_done
    -- what comes back stands for the same model, with its entries in the same order
    have hsame : k''.entries.map Placed.settings = k.entries.map Placed.settings := by
      have hkept := map_settings_moveTo k' n q
      rw [hk''] at hkept
      exact hkept.trans hsettings
    exact ⟨_, hfind, h.eq_of_settings_eq hm h'' hsame ▸ hk''⟩
  exact ⟨k', hk', h', hsettings, hposition,
    h'.raw_eq.trans (hmoved.raw_eq.trans h.raw_eq.symm),
    h'.mode_eq.trans (hmoved.mode_eq.trans h.mode_eq.symm),
    h'.keepUnknown_eq.trans (hmoved.keepUnknown_eq.trans h.keepUnknown_eq.symm),
    h'.anchor_eq.trans (hmoved.anchor_eq.trans h.anchor_eq.symm), hback⟩

end KeyedModel.StandsFor

namespace Model

variable {m : Model}

/-- **Every column can be moved anywhere,** in every model that comes up, and a column that the
model does not have is refused. So it is in every keyed model that stands for the model: positions
are given anew and nothing else changes, and a refusal hands back the keyed model as it was. -/
theorem moved_of_reachable (h : m.Reachable) (n : String) (p : ℕ) :
    (n ∈ m.names → ∃ m', m.moveTo n p = .ok m' ∧ m.Moved n p m' ∧
      ∀ k : KeyedModel, k.StandsFor m →
        ∃ k', k.moveTo n p = (.ok (), k') ∧ k'.StandsFor m' ∧ k.Moved n p k') ∧
    (n ∉ m.names → m.moveTo n p = .error (.unknownColumn n) ∧ m.after (.moveTo n p) = m ∧
      ∀ k : KeyedModel, k.StandsFor m → k.moveTo n p = (.error (.unknownColumn n), k)) := by
  have hm := h.aligned.distinct
  refine ⟨fun hmem => ?_, fun hnone => ?_⟩
  · obtain ⟨m', hmove⟩ := exists_moveTo hmem p
    exact ⟨m', hmove, moved_of_moveTo hm hmove, fun k hk => hk.moved hm hmove⟩
  · have hrefuse : m.moveTo n p = .error (.unknownColumn n) := by
      rw [moveTo, get?_eq_none_iff.2 hnone]
    exact ⟨hrefuse, after_of_error hrefuse, fun k hk =>
      (hrefuse ▸ hk.moveTo hm n p).eq_refused⟩

/-- The order number goes behind the day, however far it is moved, and it is found there; there is
no customer. -/
theorem moved_of_reachable_orders :
    ordersModel.Reachable ∧
    (∃ m', ordersModel.moveTo "order" 7 = .ok m' ∧ ordersModel.Moved "order" 7 m' ∧
      m'.names = ["day", "order"]) ∧
    ordersModel.moveTo "customer" 7 = .error (.unknownColumn "customer") ∧
    (KeyedModel.ofModel ordersModel).StandsFor ordersModel ∧
    (∃ k', (KeyedModel.ofModel ordersModel).moveTo "order" 7 = (.ok (), k') ∧
      (k'.find? "order").map Placed.position = some 1) ∧
    (KeyedModel.ofModel ordersModel).moveTo "customer" 7 =
      (.error (.unknownColumn "customer"), KeyedModel.ofModel ordersModel) := by
  have h : ordersModel.Reachable :=
    ⟨ordersModel, [], .inl ⟨ordersRaw, .union, fresh_ordersRaw⟩, rfl⟩
  have hk := KeyedModel.standsFor_ofModel h.aligned
  obtain ⟨m', hmove, hmoved, hkeyed⟩ := (moved_of_reachable h "order" 7).1 (by decide)
  obtain ⟨k', hk', -, hplaced⟩ := hkeyed _ hk
  obtain ⟨hrefuse, -, hkrefuse⟩ := (moved_of_reachable h "customer" 7).2 (by decide)
  refine ⟨h, ⟨m', hmove, hmoved, ?_⟩, hrefuse, hk, ⟨k', hk', ?_⟩, hkrefuse _ hk⟩
  · rw [hmoved.names_eq]
    decide
  · rw [hplaced.position_eq, hk.length_eq]
    rfl

end Model

end OneTable
