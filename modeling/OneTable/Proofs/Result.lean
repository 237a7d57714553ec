import Mathlib.Data.List.Forall2

/-!
# Results that may be failures

Most steps of the library answer with a value or with a failure, and a chain of steps stops
at the first failure. So a chain that ends well has taken every step well, and it can be
taken apart into its steps without unfolding any of them.

* `OneTable.bind_eq_ok_iff`, `OneTable.map_eq_ok_iff`, `OneTable.mapError_eq_ok_iff`,
  `OneTable.elim_eq_ok_iff` – one step of a chain, with `OneTable.bind_eq_error_iff`,
  `OneTable.mapError_eq_error_iff` and `OneTable.elim_eq_error_iff` for one that fails;
* `OneTable.guard_eq_ok_iff`, `OneTable.throw_guard_eq_ok_iff` – a check in front of the
  rest, with `OneTable.guard_eq_error_iff` and `OneTable.throw_guard_eq_error_iff`;
* `OneTable.mapM_eq_ok_iff`, `OneTable.mapM_elim` – a step that is taken for each entry of a
  list, up to the first failure;
* `OneTable.map_eq_map_ok_iff`, `OneTable.flatMap_eq_map_ok_iff` – a list of results all of which
  are values.
-/

namespace OneTable

variable {ε ε' α β γ : Type}

/-- A failure is no value. -/
theorem error_ne_ok {e : ε} {a : α} : (Except.error e : Except ε α) ≠ .ok a := by
  intro h
  cases h

/-- **A chain that ends well has taken its first step well.** -/
theorem bind_eq_ok_iff {x : Except ε α} {f : α → Except ε β} {b : β} :
    (x >>= f) = .ok b ↔ ∃ a, x = .ok a ∧ f a = .ok b := by
  cases x with
  | ok a =>
    refine ⟨fun h => ⟨a, rfl, h⟩, ?_⟩
    rintro ⟨_, ha, hb⟩
    exact Except.ok.inj ha ▸ hb
  | error e =>
    refine ⟨fun h => absurd h error_ne_ok, ?_⟩
    rintro ⟨_, ha, _⟩
    exact absurd ha error_ne_ok

/-- **A chain that fails has failed in its first step or behind it.** -/
theorem bind_eq_error_iff {x : Except ε α} {f : α → Except ε β} {e : ε} :
    (x >>= f) = .error e ↔ x = .error e ∨ ∃ a, x = .ok a ∧ f a = .error e := by
  cases x with
  | ok a =>
    refine ⟨fun h => Or.inr ⟨a, rfl, h⟩, ?_⟩
    rintro (h | ⟨_, ha, he⟩)
    · exact absurd h.symm error_ne_ok
    · exact Except.ok.inj ha ▸ he
  | error d =>
    refine ⟨fun h => Or.inl (congrArg Except.error (Except.error.inj h)), ?_⟩
    rintro (h | ⟨_, ha, _⟩)
    · exact congrArg Except.error (Except.error.inj h)
    · exact absurd ha error_ne_ok

theorem map_eq_ok_iff {x : Except ε α} {f : α → β} {b : β} :
    x.map f = .ok b ↔ ∃ a, x = .ok a ∧ f a = b := by
  cases x with
  | ok a =>
    refine ⟨fun h => ⟨a, rfl, Except.ok.inj h⟩, ?_⟩
    rintro ⟨_, ha, rfl⟩
    exact congrArg (fun a => Except.ok (f a)) (Except.ok.inj ha)
  | error e =>
    refine ⟨fun h => absurd h error_ne_ok, ?_⟩
    rintro ⟨_, ha, _⟩
    exact absurd ha error_ne_ok

theorem mapError_eq_ok_iff {x : Except ε α} {f : ε → ε'} {a : α} :
    x.mapError f = .ok a ↔ x = .ok a := by
  cases x with
  | ok b => exact ⟨fun h => congrArg Except.ok (Except.ok.inj h),
      fun h => congrArg Except.ok (Except.ok.inj h)⟩
  | error e => exact ⟨fun h => absurd h error_ne_ok, fun h => absurd h error_ne_ok⟩

/-- A failure that is reported in other words is a failure. -/
theorem mapError_eq_error_iff {x : Except ε α} {f : ε → ε'} {e' : ε'} :
    x.mapError f = .error e' ↔ ∃ e, x = .error e ∧ f e = e' := by
  cases x with
  | ok b => exact ⟨fun h => absurd h.symm error_ne_ok, fun ⟨_, h, _⟩ => absurd h.symm error_ne_ok⟩
  | error e =>
    refine ⟨fun h => ⟨e, rfl, Except.error.inj h⟩, ?_⟩
    rintro ⟨_, he, rfl⟩
    exact congrArg (fun e => Except.error (f e)) (Except.error.inj he)

/-- A value that may be missing, with a failure in its place, is there where the whole ends well. -/
theorem elim_eq_ok_iff {o : Option α} {e : ε} {a : α} :
    o.elim (.error e) (.ok : α → Except ε α) = .ok a ↔ o = some a := by
  cases o with
  | none => exact ⟨fun h => absurd h error_ne_ok, fun h => absurd h.symm (Option.some_ne_none a)⟩
  | some b =>
    exact ⟨fun h => congrArg some (Except.ok.inj h),
      fun h => congrArg Except.ok (Option.some.inj h)⟩

/-- It is missing where the whole fails, and then the failure is the one in its place. -/
theorem elim_eq_error_iff {o : Option α} {e e' : ε} :
    o.elim (.error e) (.ok : α → Except ε α) = .error e' ↔ o = none ∧ e = e' := by
  cases o with
  | none => exact ⟨fun h => ⟨rfl, Except.error.inj h⟩, fun h => congrArg Except.error h.2⟩
  | some b => exact ⟨fun h => absurd h.symm error_ne_ok, fun h => absurd h.1 (Option.some_ne_none b)⟩

/-- A check in front of the rest is passed where the whole ends well. -/
theorem guard_eq_ok_iff {p : Prop} [Decidable p] {e : ε} {x : Except ε α} {a : α} :
    (if p then .error e else x) = .ok a ↔ ¬p ∧ x = .ok a := by
  by_cases h : p
  · rw [if_pos h]
    exact ⟨fun hc => absurd hc error_ne_ok, fun hc => absurd h hc.1⟩
  · rw [if_neg h]
    exact ⟨fun hc => ⟨h, hc⟩, fun hc => hc.2⟩

/-- Where the whole fails, the check is not passed, or the rest fails. -/
theorem guard_eq_error_iff {p : Prop} [Decidable p] {d e : ε} {x : Except ε α} :
    (if p then .error d else x) = .error e ↔ (p ∧ d = e) ∨ (¬p ∧ x = .error e) := by
  by_cases h : p
  · rw [if_pos h]
    exact ⟨fun hc => Or.inl ⟨h, Except.error.inj hc⟩,
      fun hc => hc.elim (fun hc => congrArg Except.error hc.2) fun hc => absurd h hc.1⟩
  · rw [if_neg h]
    exact ⟨fun hc => Or.inr ⟨h, hc⟩, fun hc => hc.elim (fun hc => absurd hc.1 h) And.right⟩

/-- The same for a check that throws, in the shape that a chain of steps gives it. -/
theorem throw_guard_eq_ok_iff {p : Prop} [Decidable p] {e : ε} {f : β → Except ε α}
    {x : Except ε α} {a : α} :
    (if p then (throw e : Except ε β) >>= f else x) = .ok a ↔ ¬p ∧ x = .ok a :=
  guard_eq_ok_iff

theorem throw_guard_eq_error_iff {p : Prop} [Decidable p] {d e : ε} {f : β → Except ε α}
    {x : Except ε α} : (if p then (throw d : Except ε β) >>= f else x) = .error e ↔
      (p ∧ d = e) ∨ (¬p ∧ x = .error e) :=
  guard_eq_error_iff

/-! ### A step for each entry of a list -/

/-- **A step that is taken for each entry ends well** exactly if it does for every entry, and
then there is one value for each. -/
theorem mapM_eq_ok_iff {f : α → Except ε β} {as : List α} {bs : List β} :
    as.mapM f = .ok bs ↔ List.Forall₂ (fun a b => f a = .ok b) as bs := by
  induction as generalizing bs with
  | nil =>
    rw [List.mapM_nil, List.forall₂_nil_left_iff]
    exact ⟨fun h => (Except.ok.inj h).symm, fun h => congrArg Except.ok h.symm⟩
  | cons a as ih =>
    rw [List.mapM_cons, bind_eq_ok_iff, List.forall₂_cons_left_iff]
    refine exists_congr fun b => ?_
    rw [bind_eq_ok_iff]
    constructor
    · rintro ⟨hb, bs', hbs, h⟩
      exact ⟨bs', hb, ih.1 hbs, (Except.ok.inj h).symm⟩
    · rintro ⟨bs', hb, hbs, rfl⟩
      exact ⟨hb, bs', ih.2 hbs, rfl⟩

/-- The value of an entry stands in its place. -/
theorem eq_ok_of_mapM_eq_ok {f : α → Except ε β} {as : List α} {bs : List β}
    (h : as.mapM f = .ok bs) {k : ℕ} {a : α} {b : β} (ha : as[k]? = some a)
    (hb : bs[k]? = some b) : f a = .ok b := by
  obtain ⟨hka, rfl⟩ := List.getElem?_eq_some_iff.1 ha
  obtain ⟨hkb, rfl⟩ := List.getElem?_eq_some_iff.1 hb
  exact (mapM_eq_ok_iff.1 h).get hka hkb

/-- **A step that is taken for each entry** ends at the first entry that it fails for, and else it
has a value for each. -/
theorem mapM_elim (fault? : α → Option ε) (value : α → β) (as : List α) :
    (as.mapM fun a => (fault? a).elim (Except.ok (value a)) .error) =
      (as.findSome? fault?).elim (.ok (as.map value)) .error := by
  induction as with
  | nil => rfl
  | cons a as ih =>
    rw [List.mapM_cons, List.findSome?_cons, ih]
    rcases fault? a with _ | e
    · rcases as.findSome? fault? with _ | e
      · rfl
      · rfl
    · rfl

/-! ### Lists of results -/

/-- A list that begins with a failure is no list of values. -/
theorem error_cons_ne_map_ok {e : ε} {xs : List (Except ε α)} {as : List α} :
    .error e :: xs ≠ as.map .ok := by
  intro h
  cases as with
  | nil => exact absurd h (List.cons_ne_nil _ _)
  | cons a as => exact absurd (List.cons.inj h).1 error_ne_ok

/-- A list of values that begins with a value goes on with values. -/
theorem ok_cons_eq_map_ok_iff {a : α} {xs : List (Except ε α)} {bs : List α} :
    .ok a :: xs = bs.map .ok ↔ ∃ as, bs = a :: as ∧ xs = as.map .ok := by
  constructor
  · intro h
    obtain ⟨b, as, rfl, hb, hxs⟩ := List.map_eq_cons_iff.1 h.symm
    exact ⟨as, by rw [Except.ok.inj hb], hxs.symm⟩
  · rintro ⟨as, rfl, rfl⟩
    rfl

theorem map_ok_injective : Function.Injective (List.map (Except.ok : α → Except ε α)) :=
  List.map_injective_iff.2 fun _ _ => Except.ok.inj

/-- The results of a step are values exactly if the step ends well for every entry. -/
theorem map_eq_map_ok_iff {f : α → Except ε β} {as : List α} {bs : List β} :
    as.map f = bs.map .ok ↔ List.Forall₂ (fun a b => f a = .ok b) as bs := by
  rw [← List.forall₂_eq_eq_eq, List.forall₂_map_left_iff, List.forall₂_map_right_iff]

/-- Results that are values, and these are related to the entries of another list. -/
theorem forall₂_ok_iff {R : α → β → Prop} {xs : List (Except ε α)} {bs : List β} :
    List.Forall₂ (fun x b => ∃ a, x = .ok a ∧ R a b) xs bs ↔
      ∃ as, xs = as.map .ok ∧ List.Forall₂ R as bs := by
  induction xs generalizing bs with
  | nil =>
    rw [List.forall₂_nil_left_iff]
    constructor
    · rintro rfl
      exact ⟨[], rfl, .nil⟩
    · rintro ⟨as, has, hbs⟩
      obtain rfl := List.map_eq_nil_iff.1 has.symm
      exact List.forall₂_nil_left_iff.1 hbs
  | cons x xs ih =>
    rw [List.forall₂_cons_left_iff]
    constructor
    · rintro ⟨b, rest, ⟨a, rfl, hab⟩, hrest, rfl⟩
      obtain ⟨as, rfl, has⟩ := ih.1 hrest
      exact ⟨a :: as, rfl, .cons hab has⟩
    · rintro ⟨as, has, hbs⟩
      obtain ⟨a, as, rfl, rfl, rfl⟩ := List.map_eq_cons_iff.1 has.symm
      obtain ⟨b, rest, hab, hrest, rfl⟩ := List.forall₂_cons_left_iff.1 hbs
      exact ⟨b, rest, ⟨a, rfl, hab⟩, ih.2 ⟨as, rfl, hrest⟩, rfl⟩

/-- **Results that are put together block by block are values** exactly if those of every block
are. -/
theorem flatMap_eq_map_ok_iff {f : α → List (Except ε β)} {as : List α} {bs : List β} :
    as.flatMap f = bs.map Except.ok ↔
      ∃ blocks, List.Forall₂ (fun a block => f a = block.map Except.ok) as blocks ∧
        bs = blocks.flatten := by
  induction as generalizing bs with
  | nil =>
    rw [List.flatMap_nil, eq_comm, List.map_eq_nil_iff]
    constructor
    · rintro rfl
      exact ⟨[], .nil, rfl⟩
    · rintro ⟨blocks, hblocks, rfl⟩
      rw [List.forall₂_nil_left_iff.1 hblocks, List.flatten_nil]
  | cons a as ih =>
    rw [List.flatMap_cons, eq_comm, List.map_eq_append_iff]
    constructor
    · rintro ⟨block, rest, rfl, hblock, hrest⟩
      obtain ⟨blocks, hblocks, rfl⟩ := ih.1 hrest.symm
      exact ⟨block :: blocks, .cons hblock.symm hblocks, rfl⟩
    · rintro ⟨blocks, hblocks, rfl⟩
      obtain ⟨block, blocks, hblock, hrest, rfl⟩ := List.forall₂_cons_left_iff.1 hblocks
      exact ⟨block, blocks.flatten, rfl, hblock.symm, (ih.2 ⟨blocks, hrest, rfl⟩).symm⟩

end OneTable
