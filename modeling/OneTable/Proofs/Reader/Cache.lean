import Mathlib.Tactic.Common
import OneTable.Proofs.Config.Rendering
import OneTable.Proofs.Reader.Scanning

/-!
# What a reader keeps

A reader that is asked for the configuration of items lets go of the one it keeps before it looks
at anything. If this was made for the items it is taken back and nothing is scanned; else the
items are scanned, and only a configuration of *all* of them is kept. Between the two there is a
scan that may be cancelled before any item and behind the last, or fail at any item, and a
configuration that may not exist although every item was scanned. In all of these cases the
reader keeps nothing, so that a part of a scan never comes to light: neither in the answer to a
request nor in a later one.

All of this is said of one request first (`OneTable.Reader.Serves`), with one case for each way
it can end. Then requests follow one another, the token being cancelled between two of them or
inside any scan, and what a reader keeps is followed through the whole series: it was there from
the start, or it is the fresh configuration of a complete scan.

* `OneTable.Config.MadeFor` – a configuration was made for a root and a list of items;
* `OneTable.Config.IsScanned` – a fresh configuration of a complete scan;
* `OneTable.Reader.Serves` – what a reader answers and keeps, with
  `OneTable.Reader.configBy_serves`;
* `OneTable.Reader.exchanges` – a series of requests;
* `OneTable.Reader.sound_of_mem_exchanges` – **every exchange of a series is sound**.
-/

namespace OneTable

namespace Config

variable {c : Config} {rootId : String} {items : Items} {mode : FilterMode} {fault : Fault}

/-- **A configuration was made for a root and a list of items:** the list is one of its items, in
some order. -/
def MadeFor (c : Config) (rootId : String) (names : List String) : Prop :=
  c.rootId = rootId ∧ names.Perm c.items.names

/-- **A fresh configuration of a complete scan** of a list of items, behind a number of other
scans. -/
def IsScanned (scanner : Scanner) (mode : FilterMode) (rootId : String) (names : List String)
    (c : Config) : Prop :=
  ∃ (n : ℕ) (specs : List TableSpec) (found : Items), scanner.Answers n names specs ∧
    Items.Collects names specs found ∧ fresh rootId found mode = .ok c

/-! ### When there is a fresh configuration -/

/-- A group without items has no configuration. -/
theorem fresh_of_nil (h : RawSpec.ofItems? items = none) :
    fresh rootId items mode = .error .emptySourceGroup := by
  rw [fresh, rawSpec, h]
  rfl

/-- Nor has a group without the shared columns that its mode asks for. -/
theorem fresh_of_lacksShared {raw : RawSpec} (h : RawSpec.ofItems? items = some raw)
    (hlacks : Model.lacksShared mode raw = true) :
    fresh rootId items mode = .error .emptyIntersection := by
  have herror : Model.fresh raw mode = .error .emptyIntersection := if_pos hlacks
  rw [fresh, rawSpec, h]
  exact congrArg (· >>= (·.toConfig rootId items)) herror

/-- **Every other group has a fresh configuration,** since a fresh model is aligned. -/
theorem exists_fresh {raw : RawSpec} (h : RawSpec.ofItems? items = some raw)
    (hlacks : Model.lacksShared mode raw = false) : ∃ c, fresh rootId items mode = .ok c := by
  obtain ⟨m, hm⟩ : ∃ m, Model.fresh raw mode = .ok m :=
    ⟨_, guard_eq_ok_iff.2 ⟨by rw [hlacks]; exact Bool.false_ne_true, rfl⟩⟩
  obtain ⟨halign, hoff⟩ := Model.aligned_fresh hm
  have hraw : m.raw = raw := by
    obtain rfl := Except.ok.inj (guard_eq_ok_iff.1 hm).2
    rfl
  rw [← hraw] at h
  exact ⟨m.rendering rootId items, fresh_eq_ok_iff.2
    ⟨m.raw, m, h, hraw ▸ hm, Model.toConfig_eq_ok halign hoff.sourced h⟩⟩

/-- **There is no fresh configuration** only if there are no items, or if the mode asks for
columns that all items share and there are none. -/
theorem of_fresh_eq_error (h : fresh rootId items mode = .error fault) :
    (fault = .emptySourceGroup ∧ items.entries = []) ∨
      (fault = .emptyIntersection ∧
        ∃ raw, RawSpec.ofItems? items = some raw ∧ Model.lacksShared mode raw = true) := by
  rcases hraw : RawSpec.ofItems? items with _ | raw
  · refine Or.inl ⟨(Except.error.inj ((fresh_of_nil hraw).symm.trans h)).symm, ?_⟩
    by_contra hentries
    rw [RawSpec.ofItems?, if_neg hentries] at hraw
    exact absurd hraw (Option.some_ne_none _)
  · rcases hlacks : Model.lacksShared mode raw with _ | _
    · obtain ⟨c, hc⟩ : ∃ c, fresh rootId items mode = .ok c := exists_fresh hraw hlacks
      exact absurd (h.symm.trans hc) error_ne_ok
    · exact Or.inr ⟨(Except.error.inj ((fresh_of_lacksShared hraw hlacks).symm.trans h)).symm,
        raw, rfl, hlacks⟩

end Config

namespace Reader

variable {scanner : Scanner} {r r' : Reader} {root : String} {items : List String}

/-! ### One request -/

/-- A reader keeps a configuration that was made for a root and a list of items. -/
def KeepsFor (r : Reader) (root : String) (items : List String) : Prop :=
  ∃ c, r.cached = some c ∧ c.MadeFor root items

/-- **What a reader answers to a request** for the configuration of items, and what becomes of
it. The items that are scanned are the first ones of the list, in its order. -/
inductive Serves (scanner : Scanner) (r : Reader) (root : String) (items : List String) :
    Except Fault Config → Reader → Prop
  /-- The configuration that is kept was made for the items: nothing is scanned. -/
  | reused {c : Config} : r.cached = some c → c.MadeFor root items →
      Serves scanner r root items (.ok c) r
  /-- All items are scanned, and their fresh configuration is kept. -/
  | fresh {specs : List TableSpec} {found : Items} {c : Config} : ¬r.KeepsFor root items →
      scanner.Answers r.watch.scans items specs →
      (r.watch.steps items.length).cancelled = false → Items.Collects items specs found →
      Config.fresh root found r.mode = .ok c →
      Serves scanner r root items (.ok c) ⟨some c, r.mode, r.watch.steps items.length⟩
  /-- The token is seen cancelled, after some of the items. -/
  | cancelled {done rest : List String} {specs : List TableSpec} : ¬r.KeepsFor root items →
      items = done ++ rest → scanner.Answers r.watch.scans done specs →
      (r.watch.steps done.length).cancelled = true →
      (∀ i < done.length, (r.watch.steps i).cancelled = false) →
      Serves scanner r root items (.error .cancelled)
        ⟨none, r.mode, r.watch.steps done.length⟩
  /-- An item is not answered, after some others. -/
  | failed {done rest : List String} {item : String} {specs : List TableSpec} {trace : Trace} :
      ¬r.KeepsFor root items → items = done ++ item :: rest →
      scanner.Answers r.watch.scans done specs →
      (r.watch.steps done.length).cancelled = false →
      scanner (r.watch.scans + done.length) item = .error trace →
      Serves scanner r root items (.error (.scan item trace))
        ⟨none, r.mode, r.watch.steps (done.length + 1)⟩
  /-- All items are scanned, but there are none. -/
  | empty : ¬r.KeepsFor root items → items = [] → r.watch.cancelled = false →
      Serves scanner r root items (.error .emptySourceGroup) ⟨none, r.mode, r.watch⟩
  /-- All items are scanned, but they share no column and the mode asks for one. -/
  | unshared {specs : List TableSpec} {found : Items} {raw : RawSpec} : ¬r.KeepsFor root items →
      scanner.Answers r.watch.scans items specs →
      (r.watch.steps items.length).cancelled = false → Items.Collects items specs found →
      RawSpec.ofItems? found = some raw → Model.lacksShared r.mode raw = true →
      Serves scanner r root items (.error .emptyIntersection)
        ⟨none, r.mode, r.watch.steps items.length⟩

theorem keepsFor_iff : r.KeepsFor root items ↔
    ∃ c, r.cached = some c ∧ c.isFor root items = true := by
  simp only [KeepsFor, Config.MadeFor, Config.isFor_iff_perm]

/-- What comes of a scan that found all items. -/
theorem refresh_of_scan {found : Items} {w : Watch}
    (h : scanner.scan items r.watch = (.ok found, w)) :
    r.refresh scanner root items =
      match Config.fresh root found r.mode with
      | .ok c => (.ok c, ⟨some c, r.mode, w⟩)
      | .error fault => (.error fault, ⟨none, r.mode, w⟩) := by
  rw [refresh, h]
  rfl

/-- What comes of a scan that did not. -/
theorem refresh_of_fault {fault : Fault} {w : Watch}
    (h : scanner.scan items r.watch = (.error fault, w)) :
    r.refresh scanner root items = (.error fault, ⟨none, r.mode, w⟩) := by
  rw [refresh, h]
  rfl

/-- What comes of a complete scan: a fresh configuration that is kept, or none. -/
theorem refresh_serves_of_complete {specs : List TableSpec} (hkeeps : ¬r.KeepsFor root items)
    (hans : scanner.Answers r.watch.scans items specs)
    (hgo : (r.watch.steps items.length).cancelled = false)
    (hscan : scanner.scan items r.watch =
      (.ok (Items.ofList (items.zip specs)), r.watch.steps items.length)) :
    Serves scanner r root items (r.refresh scanner root items).1
      (r.refresh scanner root items).2 := by
  have hfound := Items.collects_ofList hans.length_eq
  rw [refresh_of_scan hscan]
  rcases hfresh : Config.fresh root (Items.ofList (items.zip specs)) r.mode with fault | c
  · rcases Config.of_fresh_eq_error hfresh with ⟨rfl, hentries⟩ | ⟨rfl, raw, hraw, hlacks⟩
    · have hitems : items = [] := by
        have hnames : (Items.ofList (items.zip specs)).names = [] := by
          rw [Items.names, hentries, List.map_nil]
        cases items with
        | nil => rfl
        | cons item items =>
          rw [hfound.names_eq, List.eraseDups_cons] at hnames
          exact absurd hnames (List.cons_ne_nil _ _)
      subst hitems
      exact .empty hkeeps rfl hgo
    · exact .unshared hkeeps hans hgo hfound hraw hlacks
  · exact .fresh hkeeps hans hgo hfound hfresh

/-- **What a reader answers to a request,** whatever it keeps and whenever its token is
cancelled. -/
theorem configBy_serves (scanner : Scanner) (r : Reader) (root : String) (items : List String) :
    Serves scanner r root items (r.configBy scanner root items).1
      (r.configBy scanner root items).2 := by
  by_cases hkeeps : r.KeepsFor root items
  · obtain ⟨c, hcached, hfor⟩ := hkeeps
    rw [configBy_of_isFor hcached (Config.isFor_iff_perm.2 hfor)]
    exact .reused hcached hfor
  · have hnot : ∀ c, r.cached = some c → c.isFor root items = false := fun c hcached =>
      Bool.eq_false_iff.2 fun hfor => hkeeps (keepsFor_iff.2 ⟨c, hcached, hfor⟩)
    rw [configBy_of_not_isFor hnot]
    have hends := scanner.scan_ends items r.watch
    rcases hscan : scanner.scan items r.watch with ⟨result, w⟩
    rw [hscan] at hends
    cases hends with
    | complete hans hgo => exact refresh_serves_of_complete hkeeps hans hgo hscan
    | cancelled hitems hans hend hbefore =>
      rw [refresh_of_fault hscan]
      exact .cancelled hkeeps hitems hans hend hbefore
    | failed hitems hans hgo hfail =>
      rw [refresh_of_fault hscan]
      exact .failed hkeeps hitems hans hgo hfail

namespace Serves

variable {answer : Except Fault Config}

/-- A reader that fails keeps nothing. -/
theorem cached_of_error {fault : Fault} (h : Serves scanner r root items answer r')
    (hfault : answer = .error fault) : r'.cached = none := by
  subst hfault
  cases h <;> rfl

/-- The configuration that a reader answers with is the one that it keeps. -/
theorem cached_of_ok {c : Config} (h : Serves scanner r root items answer r')
    (hc : answer = .ok c) : r'.cached = some c := by
  subst hc
  cases h with
  | reused hcached _ => exact hcached
  | fresh => rfl

theorem mode_eq (h : Serves scanner r root items answer r') : r'.mode = r.mode := by
  cases h <;> rfl

/-- **A reader answers without a scan** exactly if it keeps a configuration that was made for the
items; and then it answers with this. -/
theorem reused_iff (h : Serves scanner r root items answer r') :
    (∃ c, r.cached = some c ∧ answer = .ok c ∧ r'.watch.scans = r.watch.scans) ↔
      r.KeepsFor root items := by
  constructor
  · rintro ⟨c, hcached, rfl, hscans⟩
    cases h with
    | reused hcached hfor => exact ⟨c, hcached, hfor⟩
    | @fresh specs found c hkeeps hans hgo hfound hfresh =>
      -- a fresh configuration is one of some items, and these were scanned
      rw [Watch.scans_steps] at hscans
      obtain rfl : items = [] := List.length_eq_zero_iff.1 (by omega)
      have hentries : found.entries = [] := List.map_eq_nil_iff.1 hfound.names_eq
      have hraw : RawSpec.ofItems? found = none := if_pos hentries
      exact absurd ((Config.fresh_of_nil hraw).symm.trans hfresh) error_ne_ok
  · intro hkeeps
    cases h with
    | reused hcached hfor => exact ⟨_, hcached, rfl, rfl⟩
    | fresh hnot | cancelled hnot | failed hnot | empty hnot | unshared hnot =>
      exact absurd hkeeps hnot

/-- **What a reader keeps** it kept before, or it is the fresh configuration of a complete
scan. -/
theorem kept_or_isScanned {c : Config} (h : Serves scanner r root items answer r')
    (hc : r'.cached = some c) :
    r.cached = some c ∨ c.IsScanned scanner r.mode root items := by
  cases h with
  | reused hcached _ => exact Or.inl hc
  | fresh hkeeps hans hgo hfound hfresh =>
    obtain rfl := Option.some.inj hc
    exact Or.inr ⟨_, _, _, hans, hfound, hfresh⟩
  | cancelled | failed | empty | unshared => exact absurd hc.symm (Option.some_ne_none c)

end Serves

/-! ### A series of requests -/

/-- A request for the configuration of items. -/
structure Request where
  /-- Whether the token is cancelled before the reader is asked. -/
  cancel : Bool
  root : String
  items : List String
deriving DecidableEq

/-- A request with what came of it. -/
structure Exchange where
  before : Reader
  request : Request
  answer : Except Fault Config
  after : Reader
deriving DecidableEq

/-- The reader that a request reaches. -/
def reachedBy (r : Reader) (q : Request) : Reader :=
  if q.cancel then { r with watch := r.watch.cancel } else r

/-- Makes a request. -/
def exchange (r : Reader) (scanner : Scanner) (q : Request) : Exchange :=
  let before := r.reachedBy q
  let (answer, after) := before.configBy scanner q.root q.items
  ⟨before, q, answer, after⟩

/-- **The exchanges of a series of requests,** each of which is made to what the one before it
left. -/
def exchanges (r : Reader) (scanner : Scanner) : List Request → List Exchange
  | [] => []
  | q :: qs =>
    let e := r.exchange scanner q
    e :: exchanges e.after scanner qs

/-- **An exchange is sound** in a series of requests to a reader. What is kept behind it was kept
by the reader at first, or it is the fresh configuration of a complete scan of the items of one
of the requests. -/
structure Exchange.Sound (scanner : Scanner) (r : Reader) (qs : List Request) (e : Exchange) :
    Prop where
  serves : Serves scanner e.before e.request.root e.request.items e.answer e.after
  reused_iff : (∃ c, e.before.cached = some c ∧ e.answer = .ok c ∧
      e.after.watch.scans = e.before.watch.scans) ↔
    e.before.KeepsFor e.request.root e.request.items
  cached_of_ok : ∀ c, e.answer = .ok c → e.after.cached = some c
  cached_of_error : ∀ fault, e.answer = .error fault → e.after.cached = none
  kept_or_isScanned : ∀ c, e.after.cached = some c →
    r.cached = some c ∨ ∃ q ∈ qs, c.IsScanned scanner r.mode q.root q.items

@[simp]
theorem cached_reachedBy (r : Reader) (q : Request) : (r.reachedBy q).cached = r.cached := by
  rw [reachedBy]
  split <;> rfl

@[simp]
theorem mode_reachedBy (r : Reader) (q : Request) : (r.reachedBy q).mode = r.mode := by
  rw [reachedBy]
  split <;> rfl

/-- **Every exchange of a series of requests is sound,** whatever the reader kept at first. -/
theorem sound_of_mem_exchanges {qs : List Request} {e : Exchange}
    (he : e ∈ r.exchanges scanner qs) : e.Sound scanner r qs := by
  -- in the middle of the series the reader keeps what it kept at first, or what it found since
  suffices hrest : ∀ (rest : List Request) (k : Reader), rest ⊆ qs → k.mode = r.mode →
      (∀ c, k.cached = some c →
        r.cached = some c ∨ ∃ q ∈ qs, c.IsScanned scanner r.mode q.root q.items) →
      e ∈ k.exchanges scanner rest → e.Sound scanner r qs from
    hrest qs r (List.Subset.refl qs) rfl (fun _ => Or.inl) he
  intro rest
  induction rest with
  | nil => exact fun _ _ _ _ he => absurd he List.not_mem_nil
  | cons q rest ih =>
    intro k hsub hmode hkept he
    have hserves := configBy_serves scanner (k.reachedBy q) q.root q.items
    have hnext : ∀ c, (k.exchange scanner q).after.cached = some c →
        r.cached = some c ∨ ∃ q ∈ qs, c.IsScanned scanner r.mode q.root q.items := by
      intro c hc
      rcases hserves.kept_or_isScanned hc with hc | hc
      · exact hkept c (k.cached_reachedBy q ▸ hc)
      · rw [mode_reachedBy, hmode] at hc
        exact Or.inr ⟨q, hsub List.mem_cons_self, hc⟩
    rcases List.mem_cons.1 he with rfl | he
    · exact {
        serves := hserves
        reused_iff := hserves.reused_iff
        cached_of_ok := fun _ => hserves.cached_of_ok
        cached_of_error := fun _ => hserves.cached_of_error
        kept_or_isScanned := hnext }
    · exact ih _ (fun p hp => hsub (List.mem_cons_of_mem q hp))
        (hserves.mode_eq.trans ((k.mode_reachedBy q).trans hmode)) hnext he

/-! ### A series of four requests -/

/-- Two items with the same columns every time they are scanned, and no others. -/
def ordersScanner : Scanner := fun _ item =>
  match Model.ordersGroup.get? item with
  | some spec => .ok spec
  | none => .error (Trace.ofText "there is no such item")

/-- A reader of these whose token is due in the third scan. -/
def ordersReader : Reader where
  watch := { due := some 3 }

/-- The items, the same in another order, one of them alone, and this one once more. -/
def ordersRequests : List Request :=
  [⟨false, "orders", ["east", "west"]⟩, ⟨false, "orders", ["west", "east"]⟩,
    ⟨false, "orders", ["west"]⟩, ⟨false, "orders", ["west"]⟩]

/-- What comes of the third request: its only item is scanned, but in the middle of that the
token is cancelled. -/
def ordersCancelled : Exchange where
  before := ⟨some (Model.ordersModel.rendering "orders" Model.ordersGroup), .union,
    { scans := 2, due := some 3 }⟩
  request := ⟨false, "orders", ["west"]⟩
  answer := .error .cancelled
  after := ⟨none, .union, { scans := 3, cancelled := true, due := some 3 }⟩

theorem ordersCancelled_mem :
    ordersCancelled ∈ ordersReader.exchanges ordersScanner ordersRequests := by
  decide +kernel

theorem sound_of_mem_exchanges_orders :
    ordersCancelled ∈ ordersReader.exchanges ordersScanner ordersRequests ∧
      ordersCancelled.Sound ordersScanner ordersReader ordersRequests :=
  ⟨ordersCancelled_mem, sound_of_mem_exchanges ordersCancelled_mem⟩

end Reader

end OneTable
