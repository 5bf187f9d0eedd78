import CandleArchive.Proofs.Transaction

/-!
# Write once — what no history of operations can undo

Registrations, imports and runs follow each other in any order, with any answers, while the guards
change between them and the connection changes at any call. Keys stay unique, stored candles stay as
they are, and of a stored asset only the name, the image and the activity change.

* `Operation`, `Operation.perform`, `Store.after`: an operation, and a history of them;
* `Store.Keyed`: the keys are unique;
* `AssetRow.Succeeds`, `Store.Extends`: a row after upserts of it, and a store after another;
* `Store.Shown`: a symbol is registered and active;
* `keyed_perform`, `extends_perform`, `shown_perform`: one operation;
* **`stored_rows_stay`**: a history.
-/

namespace CandleArchive

/-- What is done to the store: a registration, the import of a pair, a run, either of these over a
connection that changes meanwhile, or a change of the connection and the guards. -/
inductive Operation where
  | registering (now : Int) (ls : List Listing)
  | registeringUnder (trace : Nat → Connection) (now : Int) (ls : List Listing)
  | importing (importer : Importer) (symbol : String) (timeframe : Timeframe) (now : Nat)
  | running (settings : RunSettings) (ranking : Ranking) (source : CandleSource) (now : Nat)
  | runningUnder (trace : ConnectionTrace) (atomic : trace.Atomic) (settings : RunSettings)
    (ranking : Ranking) (source : CandleSource) (now : Nat)
  | disturbing (connection : Connection) (assetGuards : List (Guard AssetRow))
    (candleGuards : List (Guard CandleRow))

/-- The store after an operation. -/
def Operation.perform : Operation → Store → Store
  | registering now ls, store => (reconcile now store ls).store
  | registeringUnder trace now ls, store => (reconcileUnder trace now store ls).store
  | importing importer symbol timeframe now, store =>
    (importer.importPair symbol timeframe store now).store
  | running settings ranking source now, store => (run settings ranking source store now).store
  | runningUnder trace _ settings ranking source now, store =>
    (runUnder trace settings ranking source store now).session.durable
  | disturbing connection assetGuards candleGuards, store =>
    store.disturb connection assetGuards candleGuards

/-- The symbols of which an upsert goes through and is kept. -/
def Operation.registered : Operation → Store → List String
  | registering now ls, store => registeredSymbols now store ls
  | registeringUnder trace now ls, store => registeredUnder trace now store ls
  | running settings ranking source now, store =>
    match (run settings ranking source store now).outcome, (ranking settings.topN).assets with
    | .ok _, .ok assets => registeredSymbols now store (listings settings.quoteAsset assets)
    | _, _ => []
  | runningUnder trace _ settings ranking source now, store =>
    match (runUnder trace settings ranking source store now).outcome,
      (ranking settings.topN).assets with
    | .ok _, .ok assets =>
      registeredUnder trace.listing now store (listings settings.quoteAsset assets)
    | _, _ => []
  | importing .., _ | disturbing .., _ => []

/-- The store after a history of operations. -/
def Store.after (store : Store) (history : List Operation) : Store :=
  history.foldl (fun s op => op.perform s) store

/-- The symbols of the assets differ, and so do the keys of the candles. -/
structure Store.Keyed (store : Store) : Prop where
  symbols : (store.assetRows.map AssetRow.symbol).Nodup
  keys : store.candleKeys.Nodup

/-- The later row is the row after upserts of its symbol. -/
structure AssetRow.Succeeds (row later : AssetRow) : Prop where
  id : later.id = row.id
  symbol : later.symbol = row.symbol
  marketType : later.marketType = row.marketType
  createdAt : later.createdAt = row.createdAt
  updatedAt : later.updatedAt = row.updatedAt
  active : row.active = true → later.active = true

/-- The later store has the candles of the store in front, and each of its assets. -/
structure Store.Extends (store later : Store) : Prop where
  candles : store.candleRows <+: later.candleRows
  assets : ∀ row ∈ store.assetRows, ∃ successor ∈ later.assetRows, row.Succeeds successor

/-- The symbol is registered, and its asset is active. -/
structure Store.Shown (symbol : String) (store : Store) : Prop where
  stored : symbol ∈ store.assetRows.map AssetRow.symbol
  active : ∀ row ∈ store.assetRows, row.symbol = symbol → row.active = true

variable {store later last : Store} {symbol : String}

/-! ## Extension -/

theorem AssetRow.Succeeds.refl (row : AssetRow) : row.Succeeds row :=
  ⟨rfl, rfl, rfl, rfl, rfl, fun ha => ha⟩

theorem AssetRow.Succeeds.trans {row next last : AssetRow} (h : row.Succeeds next)
    (h' : next.Succeeds last) : row.Succeeds last where
  id := h'.id.trans h.id
  symbol := h'.symbol.trans h.symbol
  marketType := h'.marketType.trans h.marketType
  createdAt := h'.createdAt.trans h.createdAt
  updatedAt := h'.updatedAt.trans h.updatedAt
  active := fun ha => h'.active (h.active ha)

theorem AssetRow.succeeds_refreshBy (ls : List Listing) (row : AssetRow) :
    row.Succeeds (row.refreshBy ls) := by
  rw [refreshBy]
  split
  · exact ⟨rfl, rfl, rfl, rfl, rfl, fun _ => rfl⟩
  · exact .refl row

theorem Store.Extends.refl (store : Store) : store.Extends store :=
  ⟨List.prefix_refl _, fun row hr => ⟨row, hr, .refl row⟩⟩

theorem Store.Extends.trans (h : store.Extends later) (h' : later.Extends last) :
    store.Extends last := by
  refine ⟨h.candles.trans h'.candles, fun row hr => ?_⟩
  obtain ⟨next, hn, hs⟩ := h.assets row hr
  obtain ⟨successor, hm, hs'⟩ := h'.assets next hn
  exact ⟨successor, hm, hs.trans hs'⟩

/-! ## Upserts, batches and disturbances -/

theorem assetRows_putListing (now : Int) (store : Store) (l : Listing) :
    (store.putListing now l).assetRows = store.assetRows ∨
      (store.putListing now l).assetRows = AssetRow.upsertInto now l store.assetRows := by
  obtain ⟨connection, applied, assets, candles, valueLimit⟩ := store
  cases assets with
  | none => exact .inl rfl
  | some table => exact .inr rfl

theorem candleRows_addCandles_or (store : Store) (new : List CandleRow) :
    (store.addCandles new).candleRows = store.candleRows ∨
      (store.addCandles new).candleRows = new.foldl CandleRow.addTo store.candleRows := by
  obtain ⟨connection, applied, assets, candles, valueLimit⟩ := store
  cases candles with
  | none => exact .inl rfl
  | some table => exact .inr rfl

/-- Another state of the connection is a disturbance. -/
theorem under_eq_disturb (c : Connection) (store : Store) :
    ∃ ag cg, store.under c = store.disturb c ag cg := by
  refine ⟨(store.assets.map Table.guards).getD [], (store.candles.map Table.guards).getD [], ?_⟩
  obtain ⟨connection, applied, assets, candles, valueLimit⟩ := store
  cases assets <;> cases candles <;> rfl

/-- **What operations consist of.** What upserts, batches and disturbances keep is kept by every
operation. -/
theorem perform_induction {P : Store → Prop}
    (put : ∀ now store l, P store → P (store.putListing now l))
    (add : ∀ store new, P store → P (store.addCandles new))
    (disturb : ∀ store c ag cg, P store → P (store.disturb c ag cg)) (op : Operation)
    (h : P store) : P (op.perform store) := by
  have under : ∀ store c, P store → P (store.under c) := fun store c hs => by
    obtain ⟨ag, cg, he⟩ := under_eq_disturb c store
    exact he ▸ disturb store c ag cg hs
  have reconciled : ∀ now ls, P (reconcile now store ls).store := fun now ls => by
    rw [store_reconcile]
    exact foldl_register_induction (put now) ls h
  have reconciledUnder : ∀ trace now ls, P (reconcileUnder trace now store ls).store :=
    fun trace now ls => by
      rw [store_reconcileUnder]
      exact foldl_registerAt_induction (put now) under _ h
  cases op with
  | registering now ls => exact reconciled now ls
  | registeringUnder trace now ls => exact reconciledUnder trace now ls
  | importing importer symbol timeframe now =>
    rw [Operation.perform, store_importPair]
    exact add _ _ h
  | running settings ranking source now =>
    rw [Operation.perform]
    cases ho : (run settings ranking source store now).outcome with
    | error e =>
      rw [store_run_of_error ho]
      exact h
    | ok report =>
      obtain ⟨hr, assets, ha⟩ := ready_of_run_ok ho
      rw [store_run ha hr]
      exact add _ _ (reconciled _ _)
  | runningUnder trace atomic settings ranking source now =>
    rw [Operation.perform]
    rcases runUnder_cases trace settings ranking source store now with
      ⟨assets, ha, ho, hc⟩ | ⟨-, hdurable⟩
    · rw [(runUnder_of_committed ha ho hc).2.2]
      exact under _ _ (importListingsUnder_induction add under _ _ _ _ _ (reconciledUnder _ _ _))
    · rw [hdurable atomic]
      exact h
  | disturbing connection assetGuards candleGuards => exact disturb _ _ _ _ h

theorem keyed_putListing (now : Int) (l : Listing) (h : store.Keyed) :
    (store.putListing now l).Keyed := by
  refine ⟨?_, h.keys⟩
  rcases assetRows_putListing now store l with hr | hr
  · rw [hr]
    exact h.symbols
  · rw [hr, AssetRow.map_symbol_upsertInto]
    split_ifs with hl
    · exact h.symbols
    · rw [← List.concat_eq_append]
      exact h.symbols.concat hl

theorem keyed_addCandles (new : List CandleRow) (h : store.Keyed) : (store.addCandles new).Keyed := by
  refine ⟨h.symbols, ?_⟩
  rw [Store.candleKeys]
  rcases candleRows_addCandles_or store new with hr | hr
  · rw [hr]
    exact h.keys
  · rw [hr, CandleRow.map_key_foldl_addTo]
    exact h.keys.append nodup_firstPerKey fun k hk hn => (mem_map_firstPerKey.mp hn).2 hk

theorem keyed_disturb (c : Connection) (ag : List (Guard AssetRow)) (cg : List (Guard CandleRow))
    (h : store.Keyed) : (store.disturb c ag cg).Keyed := by
  refine ⟨?_, ?_⟩
  · rw [Store.assetRows_disturb]
    exact h.symbols
  · rw [Store.candleKeys, Store.candleRows_disturb]
    exact h.keys

theorem extends_putListing (now : Int) (store : Store) (l : Listing) :
    store.Extends (store.putListing now l) := by
  refine ⟨List.prefix_refl _, fun row hr => ?_⟩
  rcases assetRows_putListing now store l with he | he
  · exact ⟨row, he ▸ hr, .refl row⟩
  · rw [he]
    by_cases hl : l.symbol ∈ store.assetRows.map AssetRow.symbol
    · rw [AssetRow.upsertInto_of_mem hl]
      exact ⟨_, List.mem_map_of_mem hr, row.succeeds_refreshBy [l]⟩
    · rw [AssetRow.upsertInto_of_notMem hl]
      exact ⟨row, List.mem_append_left _ hr, .refl row⟩

theorem extends_addCandles (store : Store) (new : List CandleRow) :
    store.Extends (store.addCandles new) := by
  refine ⟨?_, fun row hr => ⟨row, hr, .refl row⟩⟩
  rcases candleRows_addCandles_or store new with hr | hr
  · exact hr ▸ List.prefix_refl _
  · rw [hr, CandleRow.foldl_addTo]
    exact List.prefix_append _ _

theorem extends_disturb (c : Connection) (ag : List (Guard AssetRow)) (cg : List (Guard CandleRow))
    (store : Store) : store.Extends (store.disturb c ag cg) := by
  refine ⟨?_, ?_⟩
  · exact Store.candleRows_disturb c ag cg store ▸ List.prefix_refl _
  · rw [Store.assetRows_disturb]
    exact fun row hr => ⟨row, hr, .refl row⟩

theorem shown_putListing (now : Int) (l : Listing) (h : store.Shown symbol) :
    (store.putListing now l).Shown symbol := by
  rcases assetRows_putListing now store l with he | he
  · exact ⟨he ▸ h.stored, he ▸ h.active⟩
  · refine ⟨?_, ?_⟩
    · rw [he, AssetRow.mem_map_symbol_upsertInto]
      exact .inr h.stored
    · rw [he]
      by_cases hl : l.symbol ∈ store.assetRows.map AssetRow.symbol
      · rw [AssetRow.upsertInto_of_mem hl]
        intro row hr hs
        obtain ⟨old, ho, rfl⟩ := List.mem_map.mp hr
        exact (old.succeeds_refreshBy [l]).active
          (h.active old ho ((old.symbol_refreshBy [l]).symm.trans hs))
      · rw [AssetRow.upsertInto_of_notMem hl]
        intro row hr hs
        rcases List.mem_append.mp hr with hr | hr
        · exact h.active row hr hs
        · obtain ⟨m, -, id, rfl⟩ := AssetRow.mem_newRows hr
          rfl

theorem shown_of_admits (now : Int) {l : Listing} (h : store.admits l = true) :
    (store.putListing now l).Shown l.symbol := by
  have hrows : (store.putListing now l).assetRows = AssetRow.upsertInto now l store.assetRows :=
    Store.assetRows_putListing_of_admits h
  refine ⟨?_, ?_⟩
  · rw [hrows, AssetRow.mem_map_symbol_upsertInto]
    exact .inl rfl
  · rw [hrows]
    by_cases hl : l.symbol ∈ store.assetRows.map AssetRow.symbol
    · rw [AssetRow.upsertInto_of_mem hl]
      intro row hr hs
      obtain ⟨old, -, rfl⟩ := List.mem_map.mp hr
      rw [AssetRow.symbol_refreshBy] at hs
      rw [AssetRow.refreshBy_cons, if_pos hs.symm]
      rfl
    · rw [AssetRow.upsertInto_of_notMem hl]
      intro row hr hs
      rcases List.mem_append.mp hr with hr | hr
      · exact absurd (hs ▸ List.mem_map_of_mem hr) hl
      · obtain ⟨m, -, id, rfl⟩ := AssetRow.mem_newRows hr
        rfl

/-! ## Operations -/

theorem keyed_perform (op : Operation) (h : store.Keyed) : (op.perform store).Keyed :=
  perform_induction (fun now _ l hs => keyed_putListing now l hs)
    (fun _ new hs => keyed_addCandles new hs) (fun _ c ag cg hs => keyed_disturb c ag cg hs) op h

theorem extends_perform (op : Operation) (store : Store) : store.Extends (op.perform store) :=
  perform_induction (P := store.Extends) (fun now s l hs => hs.trans (extends_putListing now s l))
    (fun s new hs => hs.trans (extends_addCandles s new))
    (fun s c ag cg hs => hs.trans (extends_disturb c ag cg s)) op (.refl store)

theorem shown_perform (op : Operation) (h : store.Shown symbol) :
    (op.perform store).Shown symbol := by
  refine perform_induction (P := Store.Shown symbol) (fun now _ l hs => shown_putListing now l hs)
    (fun _ _ hs => ⟨hs.stored, hs.active⟩) (fun s c ag cg hs => ⟨?_, ?_⟩) op h
  · rw [Store.assetRows_disturb]
    exact hs.stored
  · rw [Store.assetRows_disturb]
    exact hs.active

theorem shown_under (c : Connection) (h : store.Shown symbol) : (store.under c).Shown symbol :=
  ⟨h.stored, h.active⟩

theorem shown_reconcileUnder {trace : Nat → Connection} {now : Int} {ls : List Listing}
    (h : symbol ∈ registeredUnder trace now store ls) :
    (reconcileUnder trace now store ls).store.Shown symbol := by
  rw [store_reconcileUnder]
  rw [registeredUnder] at h
  generalize ls.zipIdx = ps at h ⊢
  induction ps generalizing store with
  | nil => cases h
  | cons p ps ih =>
    rw [registrations_cons] at h
    rw [List.foldl_cons]
    cases ha : (store.under (trace p.2)).admits p.1 with
    | false =>
      obtain ⟨e, he⟩ := registerListing_of_not_admits now ha
      rw [he] at h
      exact ih h
    | true =>
      rw [registerListing_of_admits ha] at h
      rcases List.mem_cons.mp h with rfl | h
      · -- later listings keep what this one shows
        refine foldl_registerAt_induction (fun _ m hs => shown_putListing now m hs)
          (fun _ c hs => shown_under c hs) ps ?_
        rw [Store.registerAt, Store.register, if_pos ha]
        exact shown_of_admits now ha
      · exact ih h

theorem shown_reconcile {now : Int} {ls : List Listing}
    (h : symbol ∈ registeredSymbols now store ls) : (reconcile now store ls).store.Shown symbol := by
  rw [← reconcileUnder_steady now rfl]
  rw [registeredSymbols_eq rfl ls 0] at h
  exact shown_reconcileUnder h

/-- **What an operation registers is shown after it.** -/
theorem shown_of_registered {op : Operation} (h : symbol ∈ op.registered store) :
    (op.perform store).Shown symbol := by
  cases op with
  | registering now ls => exact shown_reconcile h
  | registeringUnder trace now ls => exact shown_reconcileUnder h
  | importing importer symbol timeframe now => cases h
  | disturbing connection assetGuards candleGuards => cases h
  | running settings ranking source now =>
    rw [Operation.registered] at h
    split at h
    · next report assets ho ha =>
      obtain ⟨hr, -⟩ := ready_of_run_ok ho
      rw [Operation.perform, store_run ha hr]
      have hs := shown_reconcile h
      exact ⟨hs.stored, hs.active⟩
    · cases h
  | runningUnder trace atomic settings ranking source now =>
    rw [Operation.registered] at h
    split at h
    · next report assets hok ha =>
      have hs := shown_reconcileUnder h
      rcases runUnder_cases trace settings ranking source store now with
        ⟨-, -, ho, hc⟩ | ⟨⟨e, herror⟩, -⟩
      · rw [Operation.perform, (runUnder_of_committed ha ho hc).2.2]
        exact shown_under _ (importListingsUnder_induction (P := Store.Shown symbol)
          (fun _ _ hs => ⟨hs.stored, hs.active⟩) (fun _ c hs => shown_under c hs) _ _ _ _ _ hs)
      · rw [herror] at hok
        contradiction
    · cases h

/-! ## Histories -/

theorem after_append (store : Store) (history more : List Operation) :
    store.after (history ++ more) = (store.after history).after more :=
  List.foldl_append

theorem after_induction {P : Store → Prop}
    (step : ∀ store (op : Operation), P store → P (op.perform store)) (history : List Operation)
    (h : P store) : P (store.after history) := by
  induction history generalizing store with
  | nil => exact h
  | cons op history ih => exact ih (step store op h)

/-- **What is stored stays.** Whatever operations follow, the keys stay unique, the candles
unchanged and in front, and the assets under their symbol and surrogate key. -/
theorem stored_rows_stay (h : store.Keyed) (earlier later : List Operation) :
    let there := store.after (earlier ++ later)
    let here := store.after earlier
    there.Keyed ∧ here.candleRows <+: there.candleRows ∧
      (∀ row ∈ here.assetRows, ∃ successor ∈ there.assetRows, row.Succeeds successor) ∧
      (∀ op, ∀ symbol ∈ op.registered here,
        (store.after (earlier ++ op :: later)).Shown symbol) ∧
      (∀ now ls, ((Operation.registering now ls).perform here).candles = here.candles) ∧
      (∀ trace now ls,
        ((Operation.registeringUnder trace now ls).perform here).candles = here.candles) ∧
      ∀ importer symbol timeframe now,
        ((Operation.importing importer symbol timeframe now).perform here).assets = here.assets := by
  intro there here
  have hkeyed : there.Keyed :=
    after_induction (P := Store.Keyed) (fun _ op hs => keyed_perform op hs) _ h
  have hext : here.Extends there := by
    rw [show there = here.after later from after_append store earlier later]
    exact after_induction (P := here.Extends) (fun s op hs => hs.trans (extends_perform op s)) later
      (.refl here)
  refine ⟨hkeyed, hext.candles, hext.assets, ?_, ?_, ?_, ?_⟩
  · intro op symbol hs
    rw [after_append]
    exact after_induction (P := Store.Shown symbol) (fun _ op hs => shown_perform op hs) later
      (shown_of_registered hs)
  · exact fun now ls => candles_reconcile now here ls
  · intro trace now ls
    rw [Operation.perform, store_reconcileUnder]
    exact foldl_registerAt_induction (P := fun s => s.candles = here.candles) (fun _ _ hs => hs)
      (fun _ _ hs => hs) _ rfl
  · intro importer symbol timeframe now
    rw [Operation.perform, store_importPair, Store.assets_addCandles]

/-- The small run as an operation. -/
def SmallRun.operation : Operation := .running settings ranking source 0

/-- The small run over a connection that is lost in the end. -/
def SmallRun.lost : Operation :=
  .runningUnder lostAtCommit (fun _ _ => rfl) settings ranking source 0

/-- Two runs, between which another one is lost and the guards go. -/
theorem stored_rows_stay_small :
    SmallRun.store.Keyed ∧
      (SmallRun.store.after [SmallRun.operation]).candleRows <+:
        (SmallRun.store.after
          [SmallRun.operation, SmallRun.lost, .disturbing .ready [] [],
            SmallRun.operation]).candleRows ∧
      (SmallRun.store.after
        [SmallRun.operation, SmallRun.lost, .disturbing .ready [] [],
          SmallRun.operation]).Shown "ETHUSDT" := by
  have hk : SmallRun.store.Keyed := ⟨by decide, by decide⟩
  have hr : "ETHUSDT" ∈ SmallRun.operation.registered SmallRun.store := by decide +kernel
  have hstay := stored_rows_stay hk [SmallRun.operation]
    [SmallRun.lost, .disturbing .ready [] [], SmallRun.operation]
  have hshown := stored_rows_stay hk []
    [SmallRun.lost, .disturbing .ready [] [], SmallRun.operation]
  exact ⟨hk, hstay.2.1, hshown.2.2.2.1 SmallRun.operation "ETHUSDT" hr⟩

end CandleArchive
