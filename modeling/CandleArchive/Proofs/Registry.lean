import CandleArchive.Proofs.Store.Registration
import CandleArchive.Registry

/-!
# The registry — registering listings one after another

Registering a list of listings is a fold over the store: each listing is upserted or leaves the store
as it is. Candles and the connection are out of its reach. The connection may change meanwhile, from
one listing to the next.

* **`registerListing_eq`**: one listing in a savepoint;
* `Store.register`, **`store_reconcile`**: the store after one listing, and the fold;
* `Store.registerAt`, `reconcileUnder`, **`store_reconcileUnder`**: the same over a connection that
  changes; `reconcileUnder_steady`: and over one that does not;
* `registrations`, **`report_reconcileUnder`**: the result of each upsert, and the report on them;
* `registeredSymbols`, `registeredUnder`: the symbols whose upsert went through;
* `foldl_register_induction`, `foldl_registerAt_induction`: what registrations keep;
* `candles_reconcile`, `connection_reconcile`: what is out of reach;
* `filter_registrations_of_nodup`: the results for listings of different symbols;
* `Store.putListings`, **`store_reconcile_of_nodup`**, **`registeredSymbols_of_nodup`**,
  **`failed_reconcile_of_nodup`**: listings of different symbols, of which those go through that the
  store admits beforehand.
-/

namespace CandleArchive

/-- The store after an attempt to register a listing. -/
def Store.register (now : Int) (store : Store) (l : Listing) : Store :=
  if store.admits l then store.putListing now l else store

/-- The store as it is reached over a connection in the given state. -/
def Store.under (c : Connection) (store : Store) : Store := { store with connection := c }

/-- The registration over the connection in the given state. -/
def Reconciliation.under (c : Connection) (r : Reconciliation) : Reconciliation :=
  { r with store := r.store.under c }

/-- Registers the listings in order, each over the connection in a state of its own. -/
def reconcileUnder (trace : Nat → Connection) (now : Int) (store : Store) (ls : List Listing) :
    Reconciliation :=
  let start : Reconciliation := { report := {}, store, lines := [] }
  let r := ls.zipIdx.foldl (fun r p => (r.under (trace p.2)).add now p.1) start
  { r with lines := r.lines ++ [.reconciled r.report.upserted r.report.failed.length] }

/-- The store after an attempt to register a numbered listing over the connection in the state of that
number. -/
def Store.registerAt (trace : Nat → Connection) (now : Int) (store : Store) (p : Listing × Nat) :
    Store :=
  (store.under (trace p.2)).register now p.1

/-- Each listing with the result of its own upsert, over the connection in the state of its number and
the store that the listings before it left. -/
def registrations (trace : Nat → Connection) (now : Int) (store : Store) :
    List (Listing × Nat) → List (Listing × Except ImportError Store)
  | [] => []
  | (l, n) :: ps =>
    let result := registerListing now (store.under (trace n)) l
    (l, result) :: registrations trace now (result.toOption.getD (store.under (trace n))) ps

/-- The symbols of the listings whose upsert went through, in order. -/
def registeredSymbols (now : Int) (store : Store) : List Listing → List String
  | [] => []
  | l :: ls =>
    match registerListing now store l with
    | .ok after => l.symbol :: registeredSymbols now after ls
    | .error _ => registeredSymbols now store ls

/-- The symbols of the listings whose upsert went through over a connection that changes, in order. -/
def registeredUnder (trace : Nat → Connection) (now : Int) (store : Store) (ls : List Listing) :
    List String :=
  ((registrations trace now store ls.zipIdx).filter (·.2.isOk)).map (·.1.symbol)

/-- The store after an upsert of each listing. -/
def Store.putListings (now : Int) (ls : List Listing) (store : Store) : Store :=
  { store with
    assets := store.assets.map fun table =>
      { table with rows := AssetRow.upsertAll now ls table.rows } }

/-- **The upsert in a savepoint.** It is carried out unless it is refused. -/
theorem registerListing_eq (now : Int) (store : Store) (l : Listing) :
    registerListing now store l =
      match store.refusal? (Store.upsertAsset now l) with
      | none => .ok (store.putListing now l)
      | some e => .error (.registryWrite l.symbol e) := by
  cases h : store.refusal? (Store.upsertAsset now l) with
  | some e => rw [registerListing, Store.refusal?_eq_some.mp h]
  | none =>
    obtain ⟨u, after, hs⟩ := Store.refusal?_eq_none.mp h
    obtain ⟨-, hi, -⟩ := Store.savepoint_eq_ok.mp hs
    obtain ⟨-, -, rfl⟩ := Store.upsertAsset_eq_ok.mp hi
    rw [registerListing, hs]

theorem registerListing_of_admits {now : Int} {store : Store} {l : Listing}
    (h : store.admits l = true) :
    registerListing now store l = .ok (store.putListing now l) := by
  rw [registerListing_eq, Store.refusal?_upsertAsset_eq_none.mpr h]

theorem registerListing_of_not_admits (now : Int) {store : Store} {l : Listing}
    (h : store.admits l = false) :
    ∃ e, registerListing now store l = .error (.registryWrite l.symbol e) := by
  rw [registerListing_eq]
  cases hr : store.refusal? (Store.upsertAsset now l) with
  | none =>
    rw [Store.refusal?_upsertAsset_eq_none, h] at hr
    cases hr
  | some e => exact ⟨e, rfl⟩

theorem isOk_registerListing (now : Int) (store : Store) (l : Listing) :
    (registerListing now store l).isOk = store.admits l := by
  cases h : store.admits l with
  | true =>
    rw [registerListing_of_admits h]
    rfl
  | false =>
    obtain ⟨e, he⟩ := registerListing_of_not_admits now h
    rw [he]
    rfl

theorem getD_registerListing (now : Int) (store : Store) (l : Listing) :
    (registerListing now store l).toOption.getD store = store.register now l := by
  rw [Store.register]
  cases h : store.admits l with
  | true => simp [registerListing_of_admits h, Except.toOption]
  | false =>
    obtain ⟨e, he⟩ := registerListing_of_not_admits now h
    simp [he, Except.toOption]

theorem store_add (now : Int) (r : Reconciliation) (l : Listing) :
    (r.add now l).store = r.store.register now l := by
  rw [Reconciliation.add, Store.register]
  cases h : r.store.admits l with
  | true => simp [registerListing_of_admits h]
  | false =>
    obtain ⟨e, he⟩ := registerListing_of_not_admits now h
    simp [he]

/-- **The store after a registration** is a fold over the listings. -/
theorem store_reconcile (now : Int) (store : Store) (ls : List Listing) :
    (reconcile now store ls).store = ls.foldl (Store.register now) store := by
  suffices h : ∀ r : Reconciliation, (ls.foldl (Reconciliation.add now) r).store =
      ls.foldl (Store.register now) r.store from h _
  induction ls with
  | nil => exact fun _ => rfl
  | cons l ls ih => exact fun r => by rw [List.foldl_cons, ih, store_add, List.foldl_cons]

/-! ## A connection that changes -/

theorem under_self {store : Store} {c : Connection} (h : store.connection = c) :
    store.under c = store := by
  subst h
  rfl

theorem connection_register (now : Int) (store : Store) (l : Listing) :
    (store.register now l).connection = store.connection := by
  rw [Store.register]
  split_ifs <;> rfl

theorem connection_add (now : Int) (r : Reconciliation) (l : Listing) :
    (r.add now l).store.connection = r.store.connection := by
  rw [store_add, connection_register]

theorem foldl_zipIdx_of_invariant {σ α : Type} {step : σ → α → σ} {change : Nat → σ → σ}
    {P : σ → Prop} (hchange : ∀ n s, P s → change n s = s) (hstep : ∀ s a, P s → P (step s a))
    (as : List α) (n : Nat) {s : σ} (hs : P s) :
    (as.zipIdx n).foldl (fun s p => step (change p.2 s) p.1) s = as.foldl step s := by
  induction as generalizing n s with
  | nil => rfl
  | cons a as ih =>
    rw [List.zipIdx_cons, List.foldl_cons, List.foldl_cons, hchange n s hs]
    exact ih (n + 1) (hstep s a hs)

theorem reconcileUnder_steady (now : Int) {store : Store} {c : Connection}
    (h : store.connection = c) (ls : List Listing) :
    reconcileUnder (fun _ => c) now store ls = reconcile now store ls := by
  have hchange : ∀ (_ : Nat) (r : Reconciliation), r.store.connection = c → r.under c = r :=
    fun _ r hr => by rw [Reconciliation.under, under_self hr]
  have hstep : ∀ (r : Reconciliation) (l : Listing), r.store.connection = c →
      (r.add now l).store.connection = c := fun r l hr => (connection_add now r l).trans hr
  rw [reconcileUnder, reconcile, foldl_zipIdx_of_invariant hchange hstep ls 0 h]

theorem store_reconcileUnder (trace : Nat → Connection) (now : Int) (store : Store)
    (ls : List Listing) :
    (reconcileUnder trace now store ls).store =
      ls.zipIdx.foldl (Store.registerAt trace now) store := by
  suffices h : ∀ (ps : List (Listing × Nat)) (r : Reconciliation),
      (ps.foldl (fun r p => (r.under (trace p.2)).add now p.1) r).store =
        ps.foldl (Store.registerAt trace now) r.store from h _ _
  intro ps
  induction ps with
  | nil => exact fun _ => rfl
  | cons p ps ih =>
    intro r
    rw [List.foldl_cons, ih, store_add, List.foldl_cons]
    rfl

/-! ## One result for each listing -/

theorem countP_add_countP_not {α : Type} (p : α → Bool) (as : List α) :
    as.countP p + as.countP (fun a => !p a) = as.length := by
  simpa using (List.length_eq_countP_add_countP p (l := as)).symm

section Registrations

variable (trace : Nat → Connection) (now : Int) (store : Store)

theorem registrations_cons (p : Listing × Nat) (ps : List (Listing × Nat)) :
    registrations trace now store (p :: ps) =
      (p.1, registerListing now (store.under (trace p.2)) p.1) ::
        registrations trace now (store.registerAt trace now p) ps := by
  rw [Store.registerAt, ← getD_registerListing]
  rfl

theorem registrations_append (ps qs : List (Listing × Nat)) :
    registrations trace now store (ps ++ qs) =
      registrations trace now store ps ++
        registrations trace now (ps.foldl (Store.registerAt trace now) store) qs := by
  induction ps generalizing store with
  | nil => rfl
  | cons p ps ih =>
    rw [List.cons_append, registrations_cons, registrations_cons, ih]
    rfl

theorem map_fst_registrations (ps : List (Listing × Nat)) :
    (registrations trace now store ps).map Prod.fst = ps.map Prod.fst := by
  induction ps generalizing store with
  | nil => rfl
  | cons p ps ih => rw [registrations_cons, List.map_cons, ih, List.map_cons]

/-- **The report on a registration** counts the upserts that go through, and names the others. -/
theorem report_reconcileUnder (ls : List Listing) :
    (reconcileUnder trace now store ls).report =
      { upserted := (registrations trace now store ls.zipIdx).countP (·.2.isOk)
        failed :=
          ((registrations trace now store ls.zipIdx).filter (!·.2.isOk)).map (·.1.symbol) } := by
  suffices h : ∀ (ps : List (Listing × Nat)) (r : Reconciliation),
      (ps.foldl (fun r p => (r.under (trace p.2)).add now p.1) r).report =
        { upserted := r.report.upserted + (registrations trace now r.store ps).countP (·.2.isOk)
          failed := r.report.failed ++
            ((registrations trace now r.store ps).filter (!·.2.isOk)).map (·.1.symbol) } by
    have hstart := h ls.zipIdx { report := {}, store, lines := [] }
    rwa [Nat.zero_add, List.nil_append] at hstart
  intro ps
  induction ps with
  | nil => exact fun r => by simp [registrations]
  | cons p ps ih =>
    intro r
    have hstore : ((r.under (trace p.2)).add now p.1).store = r.store.registerAt trace now p :=
      store_add now _ _
    rw [List.foldl_cons, ih, hstore, registrations_cons, Reconciliation.add]
    have hunder : (r.under (trace p.2)).store = r.store.under (trace p.2) := rfl
    rw [hunder]
    cases registerListing now (r.store.under (trace p.2)) p.1 with
    | ok after =>
      simp [Except.isOk, Except.toBool, Reconciliation.under]
      omega
    | error e => simp [Except.isOk, Except.toBool, Reconciliation.under]

end Registrations

section Steady

variable {now : Int} {store : Store} {c : Connection}

theorem registerAt_steady (h : store.connection = c) (p : Listing × Nat) :
    store.registerAt (fun _ => c) now p = store.register now p.1 := by
  rw [Store.registerAt, under_self h]

theorem registeredSymbols_eq (h : store.connection = c) (ls : List Listing) (n : Nat) :
    registeredSymbols now store ls =
      ((registrations (fun _ => c) now store (ls.zipIdx n)).filter (·.2.isOk)).map
        (·.1.symbol) := by
  induction ls generalizing store n with
  | nil => rfl
  | cons l ls ih =>
    have hrest := ih ((connection_register now store l).trans h) (n + 1)
    rw [← getD_registerListing] at hrest
    rw [registeredSymbols, List.zipIdx_cons, registrations_cons, registerAt_steady h, under_self h,
      ← getD_registerListing]
    cases hl : registerListing now store l with
    | ok after =>
      rw [hl] at hrest
      exact congrArg _ hrest
    | error e =>
      rw [hl] at hrest
      exact hrest

end Steady

theorem report_reconcile (now : Int) (store : Store) (ls : List Listing) :
    let tries := registrations (fun _ => store.connection) now store ls.zipIdx
    (reconcile now store ls).report =
      { upserted := tries.countP (·.2.isOk)
        failed := (tries.filter (!·.2.isOk)).map (·.1.symbol) } := by
  intro tries
  rw [← reconcileUnder_steady now rfl, report_reconcileUnder]

theorem upserted_reconcile (now : Int) (store : Store) (ls : List Listing) :
    (reconcile now store ls).report.upserted = (registeredSymbols now store ls).length := by
  rw [report_reconcile, registeredSymbols_eq rfl ls 0, List.length_map,
    ← List.countP_eq_length_filter]

theorem foldl_register_induction {now : Int} {P : Store → Prop}
    (put : ∀ store l, P store → P (store.putListing now l)) (ls : List Listing) {store : Store}
    (h : P store) : P (ls.foldl (Store.register now) store) := by
  induction ls generalizing store with
  | nil => exact h
  | cons l ls ih =>
    rw [List.foldl_cons]
    refine ih ?_
    rw [Store.register]
    split_ifs
    · exact put store l h
    · exact h

/-- What upserts keep, and the state of the connection does not touch, is kept by registrations over
a connection that changes. -/
theorem foldl_registerAt_induction {trace : Nat → Connection} {now : Int} {P : Store → Prop}
    (put : ∀ store l, P store → P (store.putListing now l))
    (under : ∀ store c, P store → P (store.under c)) (ps : List (Listing × Nat)) {store : Store}
    (h : P store) : P (ps.foldl (Store.registerAt trace now) store) := by
  induction ps generalizing store with
  | nil => exact h
  | cons p ps ih =>
    rw [List.foldl_cons]
    refine ih ?_
    rw [Store.registerAt, Store.register]
    split_ifs
    · exact put _ p.1 (under _ _ h)
    · exact under _ _ h

theorem candles_reconcile (now : Int) (store : Store) (ls : List Listing) :
    (reconcile now store ls).store.candles = store.candles := by
  rw [store_reconcile]
  exact foldl_register_induction (P := fun s => s.candles = store.candles)
    (fun _ _ hs => hs) ls rfl

theorem valueLimit_reconcile (now : Int) (store : Store) (ls : List Listing) :
    (reconcile now store ls).store.valueLimit = store.valueLimit := by
  rw [store_reconcile]
  exact foldl_register_induction (P := fun s => s.valueLimit = store.valueLimit)
    (fun _ _ hs => hs) ls rfl

theorem connection_reconcile (now : Int) (store : Store) (ls : List Listing) :
    (reconcile now store ls).store.connection = store.connection := by
  rw [store_reconcile]
  exact foldl_register_induction (P := fun s => s.connection = store.connection)
    (fun _ _ hs => hs) ls rfl

@[simp] theorem candleRows_reconcile (now : Int) (store : Store) (ls : List Listing) :
    (reconcile now store ls).store.candleRows = store.candleRows := by
  rw [Store.candleRows, candles_reconcile, Store.candleRows]

theorem foldl_putListing (now : Int) (ls : List Listing) (store : Store) :
    ls.foldl (Store.putListing now) store = store.putListings now ls := by
  induction ls generalizing store with
  | nil => simp [Store.putListings, AssetRow.upsertAll]
  | cons l ls ih =>
    rw [List.foldl_cons, ih]
    simp [Store.putListings, Store.putListing, AssetRow.upsertAll, Function.comp_def]

theorem admits_register {now : Int} {store : Store} {l m : Listing}
    (h : m.symbol ≠ l.symbol) : (store.register now l).admits m = store.admits m := by
  rw [Store.register]
  split_ifs
  · exact Store.admits_putListing h
  · rfl

theorem filter_admits_register (p : Bool → Bool) {now : Int} {store : Store} {l : Listing}
    {ls : List Listing} (h : l.symbol ∉ ls.map Listing.symbol) :
    ls.filter (fun m => p ((store.register now l).admits m)) =
      ls.filter fun m => p (store.admits m) := by
  refine List.filter_congr fun m hm => ?_
  rw [admits_register fun e => h (e ▸ List.mem_map_of_mem hm)]

/-- **Listings of different symbols** are upserted where the store admits them beforehand. -/
theorem store_reconcile_of_nodup (now : Int) (store : Store) {ls : List Listing}
    (hd : (ls.map Listing.symbol).Nodup) :
    (reconcile now store ls).store =
      store.putListings now (ls.filter fun l => store.admits l) := by
  rw [store_reconcile, ← foldl_putListing]
  induction ls generalizing store with
  | nil => rfl
  | cons l ls ih =>
    rw [List.map_cons, List.nodup_cons] at hd
    have hrest : ls.filter (fun m => (store.register now l).admits m) =
        ls.filter fun m => store.admits m := filter_admits_register id hd.1
    rw [List.foldl_cons, ih _ hd.2, hrest, Store.register]
    cases h : store.admits l with
    | false => simp [h]
    | true => simp [h]

theorem filter_registrations_of_nodup (p : Bool → Bool) (now : Int) {store : Store} {c : Connection}
    (h : store.connection = c) {ls : List Listing} (hd : (ls.map Listing.symbol).Nodup) (n : Nat) :
    ((registrations (fun _ => c) now store (ls.zipIdx n)).filter fun t => p t.2.isOk).map
        (·.1.symbol) =
      (ls.filter fun l => p (store.admits l)).map Listing.symbol := by
  induction ls generalizing store n with
  | nil => rfl
  | cons l ls ih =>
    rw [List.map_cons, List.nodup_cons] at hd
    have hrest := ih ((connection_register now store l).trans h) hd.2 (n + 1)
    rw [filter_admits_register p hd.1] at hrest
    rw [List.zipIdx_cons, registrations_cons, registerAt_steady h, under_self h, List.filter_cons,
      List.filter_cons, isOk_registerListing]
    split_ifs
    · rw [List.map_cons, List.map_cons, hrest]
    · rw [hrest]

theorem registeredSymbols_of_nodup (now : Int) (store : Store) {ls : List Listing}
    (hd : (ls.map Listing.symbol).Nodup) :
    registeredSymbols now store ls =
      (ls.filter fun l => store.admits l).map Listing.symbol := by
  rw [registeredSymbols_eq rfl ls 0]
  exact filter_registrations_of_nodup id now rfl hd 0

theorem symbol_mem_filter {ls : List Listing} (hd : (ls.map Listing.symbol).Nodup) {l : Listing}
    (hl : l ∈ ls) (p : Listing → Bool) : l.symbol ∈ (ls.filter p).map Listing.symbol ↔ p l = true := by
  rw [List.mem_map]
  constructor
  · rintro ⟨m, hm, hs⟩
    obtain ⟨hmem, hp⟩ := List.mem_filter.mp hm
    exact List.inj_on_of_nodup_map hd hmem hl hs ▸ hp
  · intro h
    exact ⟨l, List.mem_filter.mpr ⟨hl, h⟩, rfl⟩

theorem mem_registeredSymbols (now : Int) (store : Store) {ls : List Listing}
    (hd : (ls.map Listing.symbol).Nodup) {l : Listing} (hl : l ∈ ls) :
    l.symbol ∈ registeredSymbols now store ls ↔ store.admits l = true := by
  rw [registeredSymbols_of_nodup now store hd, symbol_mem_filter hd hl]

/-- **The registrations that fail** are those that the store does not admit beforehand. -/
theorem failed_reconcile_of_nodup (now : Int) (store : Store) {ls : List Listing}
    (hd : (ls.map Listing.symbol).Nodup) :
    (reconcile now store ls).report.failed =
      (ls.filter fun l => !store.admits l).map Listing.symbol := by
  rw [report_reconcile]
  exact filter_registrations_of_nodup not now rfl hd 0

theorem mem_failed_reconcile (now : Int) (store : Store) {ls : List Listing}
    (hd : (ls.map Listing.symbol).Nodup) {l : Listing} (hl : l ∈ ls) :
    l.symbol ∈ (reconcile now store ls).report.failed ↔ store.admits l = false := by
  rw [failed_reconcile_of_nodup now store hd, symbol_mem_filter hd hl, Bool.not_eq_true']

theorem assetRows_putListings (now : Int) (ls : List Listing) {store : Store}
    (h : store.assets.isSome) :
    (store.putListings now ls).assetRows = AssetRow.upsertAll now ls store.assetRows := by
  obtain ⟨table, ht⟩ := Option.isSome_iff_exists.mp h
  simp [Store.putListings, Store.assetRows, ht]

theorem assetRows_putListings_admitted (now : Int) (store : Store) (ls : List Listing) :
    (store.putListings now (ls.filter fun l => store.admits l)).assetRows =
      AssetRow.upsertAll now (ls.filter fun l => store.admits l) store.assetRows := by
  cases h : store.assets with
  | some table => exact assetRows_putListings now _ (by simp [h])
  | none =>
    have hn : ls.filter (fun l => store.admits l) = [] := by simp [Store.admits, h]
    rw [hn]
    simp [Store.putListings, Store.assetRows, AssetRow.upsertAll, h]

theorem admits_putListings {now : Int} {ls : List Listing} {store : Store} {l : Listing}
    (h : l.symbol ∉ ls.map Listing.symbol) : (store.putListings now ls).admits l = store.admits l := by
  rw [← foldl_putListing]
  induction ls generalizing store with
  | nil => rfl
  | cons m ls ih =>
    rw [List.map_cons, List.mem_cons, not_or] at h
    rw [List.foldl_cons, ih h.2, Store.admits_putListing h.1]

theorem store_reconcile_eq_self {now : Int} {ls : List Listing} {store : Store}
    (h : ∀ l ∈ ls, store.admits l = true → AssetRow.Shows store.assetRows l) :
    (reconcile now store ls).store = store := by
  rw [store_reconcile]
  induction ls with
  | nil => rfl
  | cons l ls ih =>
    have hl : store.register now l = store := by
      rw [Store.register]
      split_ifs with ha
      · exact Store.putListing_eq_self (h l List.mem_cons_self ha)
      · rfl
    rw [List.foldl_cons, hl]
    exact ih fun m hm => h m (List.mem_cons_of_mem l hm)

end CandleArchive
