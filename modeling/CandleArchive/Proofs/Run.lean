import CandleArchive.Proofs.History
import CandleArchive.Run
import CandleArchive.Store.Migration
import Mathlib.Tactic.Common

/-!
# Runs — what a run does to the store, and what it reports

The pairs of a run are imported one after another; the store after them is the store before with what
was taken of each batch, in order. A run that ends well is its registration followed by its pairs.

* `pairBatch`, `takenBatches`, **`store_importPairs`**: the store after several pairs;
* `Store.outcomeOf`, `PairOutcome.unwritten`, `outcomes_importPairs`: what became of the pairs, new
  rows aside;
* `writtenBy`, **`written_importPairs`**: rows that count as written are rows that came;
* **`run_of_ready`**, `ready_of_run_ok`, `store_run_of_error`, `outcome_run_of_not_ready`: when a run
  ends well, what it then consists of, and what is left otherwise;
* `store_run`, `candleRows_run`, `unwritten_run`, `writtenBy_run`: its store, its candles, its outcomes
  and its written rows;
* `SmallRun`: a run over stored rows, refusals and repetitions.
-/

namespace CandleArchive

/-- The request that is made for a pair. -/
def pairRequest (limit : Nat) (pair : String × Timeframe) : CandleRequest := ⟨pair.1, pair.2, limit⟩

/-- The batch that a source answers for a pair. -/
def pairBatch (source : CandleSource) (limit : Nat) (pair : String × Timeframe) : List CandleRow :=
  batch pair.1 pair.2 (source (pairRequest limit pair)).rows

/-- What the store takes of the batches of several pairs, in order. -/
def takenBatches (source : CandleSource) (limit : Nat) (store : Store)
    (ps : List (String × Timeframe)) : List CandleRow :=
  ps.flatMap fun pair => store.accepted (pairBatch source limit pair)

/-- What becomes of a pair that is imported into the store as it is. -/
def Store.outcomeOf (source : CandleSource) (limit : Nat) (store : Store)
    (pair : String × Timeframe) : PairOutcome where
  symbol := pair.1
  timeframe := pair.2
  result := (importRows pair.1 pair.2 (source (pairRequest limit pair)).rows store).outcome

/-- The outcome of a pair with the written rows left out. -/
def PairOutcome.unwritten (o : PairOutcome) : PairOutcome :=
  { o with result := o.result.map fun counts => { counts with written := 0 } }

/-- The rows that the pairs wrote. -/
def writtenBy (outcomes : List PairOutcome) : Nat :=
  (ImportCounts.total (outcomes.filterMap (·.result.toOption))).written

/-- The outcome of a pair as far as the store's rows have no part in it. -/
def Store.attempt (source : CandleSource) (limit : Nat) (store : Store)
    (pair : String × Timeframe) : PairOutcome where
  symbol := pair.1
  timeframe := pair.2
  result :=
    match store.batchRefusal? (pairBatch source limit pair) with
    | none => .ok (answerCounts pair.1 pair.2 (source (pairRequest limit pair)).rows)
    | some e => .error (.candleWrite pair.1 pair.2 e)

theorem isOk_unwritten (o : PairOutcome) : o.unwritten.result.isOk = o.result.isOk := by
  obtain ⟨symbol, timeframe, result⟩ := o
  cases result with
  | error e => rfl
  | ok counts => rfl

section Pairs

variable (source : CandleSource) (limit : Nat)

@[simp] theorem takenBatches_addCandles (store : Store) (more : List CandleRow)
    (ps : List (String × Timeframe)) :
    takenBatches source limit (store.addCandles more) ps = takenBatches source limit store ps := by
  simp only [takenBatches, Store.accepted_addCandles]

@[simp] theorem takenBatches_reconcile (now : Int) (store : Store) (ls : List Listing)
    (ps : List (String × Timeframe)) :
    takenBatches source limit (reconcile now store ls).store ps =
      takenBatches source limit store ps := by
  simp only [takenBatches, Store.accepted_reconcile]

@[simp] theorem attempt_addCandles (store : Store) (more : List CandleRow) :
    (store.addCandles more).attempt source limit = store.attempt source limit := by
  funext pair
  unfold Store.attempt
  rw [Store.batchRefusal?_addCandles]

@[simp] theorem attempt_reconcile (now : Int) (store : Store) (ls : List Listing) :
    (reconcile now store ls).store.attempt source limit = store.attempt source limit := by
  funext pair
  unfold Store.attempt
  rw [Store.batchRefusal?_reconcile]

/-! ## One pair -/

theorem batch_pair (pair : String × Timeframe) :
    batch pair.1 pair.2 (source (pairRequest limit pair)).rows = pairBatch source limit pair := rfl

theorem store_importNext (s : RunState) (pair : String × Timeframe) :
    (s.importNext source limit pair).store =
      s.store.addCandles (s.store.accepted (pairBatch source limit pair)) := by
  obtain ⟨symbol, timeframe⟩ := pair
  exact store_importRows _ _

theorem outcomes_importNext (s : RunState) (pair : String × Timeframe) :
    (s.importNext source limit pair).outcomes =
      s.outcomes ++ [s.store.outcomeOf source limit pair] := rfl

theorem unwritten_outcomeOf (store : Store) (pair : String × Timeframe) :
    (store.outcomeOf source limit pair).unwritten = store.attempt source limit pair := by
  rw [PairOutcome.unwritten, Store.outcomeOf, Store.attempt, outcome_importRows, batch_pair]
  cases store.batchRefusal? (pairBatch source limit pair) with
  | none => rfl
  | some e => rfl

theorem written_outcomeOf (store : Store) (pair : String × Timeframe) :
    writtenBy [store.outcomeOf source limit pair] + store.candleRows.length =
      (importRows pair.1 pair.2
        (source (pairRequest limit pair)).rows store).store.candleRows.length := by
  rw [store_importRows, Store.candleRows_addCandles_accepted, CandleRow.foldl_addTo,
    List.length_append, CandleRow.length_numbered, Store.outcomeOf, outcome_importRows,
    Store.accepted, batch_pair]
  cases store.batchRefusal? (pairBatch source limit pair) with
  | none =>
    simp [writtenBy, Except.toOption, ImportCounts.total, ImportCounts.add, Store.candleKeys,
      Nat.add_comm]
  | some e => simp [writtenBy, Except.toOption, ImportCounts.total, firstPerKey]

/-! ## Several pairs -/

/-- **The store after several pairs** holds what was taken of each batch, in order. -/
theorem store_importPairs (s : RunState) (ps : List (String × Timeframe)) :
    (importPairs source limit s ps).store =
      s.store.addCandles (takenBatches source limit s.store ps) := by
  induction ps generalizing s with
  | nil => simp [importPairs, takenBatches]
  | cons pair ps ih =>
    rw [importPairs, List.foldl_cons, ← importPairs, ih, store_importNext, takenBatches_addCandles,
      takenBatches, takenBatches, List.flatMap_cons, Store.addCandles_append]

theorem outcomes_importPairs (s : RunState) (ps : List (String × Timeframe)) :
    (importPairs source limit s ps).outcomes.map PairOutcome.unwritten =
      s.outcomes.map PairOutcome.unwritten ++ ps.map (s.store.attempt source limit) := by
  induction ps generalizing s with
  | nil => simp [importPairs]
  | cons pair ps ih =>
    rw [importPairs, List.foldl_cons, ← importPairs, ih, store_importNext, attempt_addCandles,
      outcomes_importNext, List.map_append, List.map_singleton, unwritten_outcomeOf,
      List.append_assoc, List.singleton_append, List.map_cons]

theorem total_cons (c : ImportCounts) (counts : List ImportCounts) :
    ImportCounts.total (c :: counts) = c.add (ImportCounts.total counts) := rfl

theorem written_total_append (counts more : List ImportCounts) :
    (ImportCounts.total (counts ++ more)).written =
      (ImportCounts.total counts).written + (ImportCounts.total more).written := by
  induction counts with
  | nil => exact (Nat.zero_add _).symm
  | cons c counts ih =>
    rw [List.cons_append, total_cons, total_cons, ImportCounts.add, ImportCounts.add, ih,
      Nat.add_assoc]

theorem writtenBy_append (os more : List PairOutcome) :
    writtenBy (os ++ more) = writtenBy os + writtenBy more := by
  unfold writtenBy
  rw [List.filterMap_append, written_total_append]

theorem written_importPairs (s : RunState) (ps : List (String × Timeframe)) :
    writtenBy (importPairs source limit s ps).outcomes + s.store.candleRows.length =
      writtenBy s.outcomes + (importPairs source limit s ps).store.candleRows.length := by
  induction ps generalizing s with
  | nil => rfl
  | cons pair ps ih =>
    rw [importPairs, List.foldl_cons, ← importPairs]
    have hp := ih (s.importNext source limit pair)
    have h1 := written_outcomeOf source limit s.store pair
    rw [outcomes_importNext, writtenBy_append] at hp
    have hst : (importRows pair.1 pair.2 (source (pairRequest limit pair)).rows s.store).store =
      (s.importNext source limit pair).store := rfl
    rw [hst] at h1
    omega

theorem events_importNext (s : RunState) (pair : String × Timeframe) :
    let importer : Importer := { source, limit, gate := s.gate }
    let step := importer.importPair pair.1 pair.2 s.store s.clock
    (s.importNext source limit pair).events =
      s.events ++ [LogLine.importingPair pair.1 pair.2].map .logged ++ step.events ++
        (PairOutcome.lines ⟨pair.1, pair.2, step.outcome⟩).map .logged := by
  simp [RunState.importNext]

theorem requestsOf_importNext (s : RunState) (pair : String × Timeframe) :
    requestsOf (s.importNext source limit pair).events = requestsOf s.events ++
      pairRequest limit pair :: requestsOf (source (pairRequest limit pair)).events := by
  rw [events_importNext, requestsOf_append, requestsOf_append, requestsOf_append,
    requestsOf_logged, requestsOf_logged, requestsOf_importPair, List.append_nil, List.append_nil]
  rfl

theorem requestsOf_importPairs (s : RunState) (ps : List (String × Timeframe)) :
    requestsOf (importPairs source limit s ps).events = requestsOf s.events ++
      ps.flatMap fun pair =>
        pairRequest limit pair :: requestsOf (source (pairRequest limit pair)).events := by
  induction ps generalizing s with
  | nil => simp [importPairs]
  | cons pair ps ih =>
    rw [importPairs, List.foldl_cons, ← importPairs, ih, requestsOf_importNext, List.append_assoc,
      List.flatMap_cons]

theorem candleRows_addCandles_takenBatches (store : Store) (ps : List (String × Timeframe)) :
    (store.addCandles (takenBatches source limit store ps)).candleRows =
      (takenBatches source limit store ps).foldl CandleRow.addTo store.candleRows := by
  refine Store.candleRows_addCandles ?_
  by_cases h : ∀ pair ∈ ps, store.accepted (pairBatch source limit pair) = []
  · exact .inr (List.flatMap_eq_nil_iff.mpr h)
  · push Not at h
    obtain ⟨pair, -, hp⟩ := h
    exact .inl (Store.candles_isSome_of_accepted hp)

end Pairs

/-! ## Whole runs -/

theorem candlesWritten_summary (registered : ReconcileReport) (outcomes : List PairOutcome) :
    (RunReport.summary registered outcomes).candlesWritten = writtenBy outcomes := rfl

theorem total_unwritten (counts : List ImportCounts) :
    ImportCounts.total (counts.map fun c => { c with written := 0 }) =
      { ImportCounts.total counts with written := 0 } := by
  induction counts with
  | nil => rfl
  | cons c counts ih =>
    rw [List.map_cons, total_cons, ih, total_cons]
    rfl

theorem filterMap_unwritten (outcomes : List PairOutcome) :
    (outcomes.map PairOutcome.unwritten).filterMap (·.result.toOption) =
      (outcomes.filterMap (·.result.toOption)).map fun counts => { counts with written := 0 } := by
  induction outcomes with
  | nil => rfl
  | cons o outcomes ih =>
    obtain ⟨symbol, timeframe, result⟩ := o
    cases result with
    | error e => simpa [PairOutcome.unwritten, Except.map, Except.toOption] using ih
    | ok counts => simpa [PairOutcome.unwritten, Except.map, Except.toOption] using ih

/-- The written rows apart, a report does not show which rows were new. -/
theorem summary_unwritten (registered : ReconcileReport) (outcomes : List PairOutcome) :
    RunReport.summary registered (outcomes.map PairOutcome.unwritten) =
      { RunReport.summary registered outcomes with candlesWritten := 0 } := by
  simp only [RunReport.summary, filterMap_unwritten, total_unwritten, List.length_map,
    List.countP_map, Function.comp_def]

theorem summary_congr {r r' : ReconcileReport} {os os' : List PairOutcome}
    (h : os.map PairOutcome.unwritten = os'.map PairOutcome.unwritten) :
    (RunReport.summary r os).pairsAttempted = (RunReport.summary r' os').pairsAttempted ∧
      (RunReport.summary r os).pairsEmpty = (RunReport.summary r' os').pairsEmpty ∧
      (RunReport.summary r os).pairsFailed = (RunReport.summary r' os').pairsFailed ∧
      (RunReport.summary r os).candlesFetched = (RunReport.summary r' os').candlesFetched ∧
      (RunReport.summary r os).candlesAttempted = (RunReport.summary r' os').candlesAttempted := by
  have hsum : { RunReport.summary r os with candlesWritten := 0 } =
      { RunReport.summary r os' with candlesWritten := 0 } := by
    rw [← summary_unwritten, ← summary_unwritten, h]
  exact ⟨(congrArg RunReport.pairsAttempted hsum :), (congrArg RunReport.pairsEmpty hsum :),
    (congrArg RunReport.pairsFailed hsum :), (congrArg RunReport.candlesFetched hsum :),
    (congrArg RunReport.candlesAttempted hsum :)⟩

theorem connection_importListings (settings : RunSettings) (source : CandleSource)
    (ls : List Listing) (store : Store) (now : Nat) :
    (importListings settings source ls store now).store.connection = store.connection := by
  rw [importListings, store_importPairs, Store.connection_addCandles]

section Whole

variable {settings : RunSettings} {ranking : Ranking} {source : CandleSource} {store : Store}
  {now : Nat} {assets : List MarketAsset} {report : RunReport}

/-- **A run that can write** registers the listings of its ranking and then imports their pairs. -/
theorem run_of_ready (ha : (ranking settings.topN).assets = .ok assets)
    (hr : store.connection = .ready) :
    let ls := listings settings.quoteAsset assets
    let registered := reconcile now store ls
    let done := importListings settings source ls registered.store now
    (run settings ranking source store now).outcome =
        .ok (RunReport.summary registered.report done.outcomes) ∧
      (run settings ranking source store now).store = done.store ∧
      (run settings ranking source store now).pairs = done.outcomes ∧
      requestsOf (run settings ranking source store now).events =
        requestsOf (ranking settings.topN).events ++ requestsOf done.events := by
  have hs : store.startTransaction = .ok () := Store.reach_eq_ok.mpr (by simp [hr])
  have hc : (importListings settings source (listings settings.quoteAsset assets)
      (reconcile now store (listings settings.quoteAsset assets)).store now).store.commit = .ok () := by
    rw [Store.commit_eq_ok, connection_importListings, connection_reconcile, hr]
  simp only [run, ha, hs, hc, requestsOf_append, requestsOf_logged]
  simp [requestsOf, Event.request?]

/-- A run that ends well had a ranking and could write. -/
theorem ready_of_run_ok (h : (run settings ranking source store now).outcome = .ok report) :
    store.connection = .ready ∧ ∃ assets, (ranking settings.topN).assets = .ok assets := by
  rw [run] at h
  cases ha : (ranking settings.topN).assets with
  | error e => simp [ha] at h
  | ok assets =>
    refine ⟨?_, assets, rfl⟩
    cases hs : store.startTransaction with
    | error e => simp [ha, hs] at h
    | ok u =>
      cases hc : (importListings settings source (listings settings.quoteAsset assets)
          (reconcile now store (listings settings.quoteAsset assets)).store now).store.commit with
      | error e => simp [ha, hs, hc] at h
      | ok u =>
        rw [Store.commit_eq_ok, connection_importListings, connection_reconcile] at hc
        exact hc

theorem store_run_of_error {e : ImportError}
    (h : (run settings ranking source store now).outcome = .error e) :
    (run settings ranking source store now).store = store := by
  rw [run] at h ⊢
  cases ha : (ranking settings.topN).assets with
  | error f => rfl
  | ok assets =>
    cases hs : store.startTransaction with
    | error f => simp
    | ok u =>
      cases hc : (importListings settings source (listings settings.quoteAsset assets)
          (reconcile now store (listings settings.quoteAsset assets)).store now).store.commit with
      | error f => simp [hc]
      | ok u => simp [ha, hs, hc] at h

theorem outcome_run_of_not_ready (ha : (ranking settings.topN).assets = .ok assets)
    (hr : store.connection ≠ .ready) :
    (run settings ranking source store now).outcome =
      .error (.database (.connection (if store.connection = .closed then "the connection is closed"
        else "the transaction cannot be committed"))) := by
  cases hc : store.connection with
  | ready => contradiction
  | closed => simp [run, ha, Store.startTransaction, Store.reach, hc]
  | uncommitting =>
    have hdone : (importListings settings source (listings settings.quoteAsset assets)
        (reconcile now store (listings settings.quoteAsset assets)).store now).store.connection =
          .uncommitting := by
      rw [connection_importListings, connection_reconcile, hc]
    simp [run, ha, Store.startTransaction, Store.reach, Store.commit, hc, hdone]

section Ready

variable (ha : (ranking settings.topN).assets = .ok assets) (hr : store.connection = .ready)
include ha hr

theorem outcome_run : (run settings ranking source store now).outcome =
    .ok (RunReport.summary (reconcile now store (listings settings.quoteAsset assets)).report
      (run settings ranking source store now).pairs) := by
  rw [(run_of_ready ha hr).1, (run_of_ready ha hr).2.2.1]

/-- **The store after a run** is that of its registration with what was taken of each batch. -/
theorem store_run : (run settings ranking source store now).store =
    (reconcile now store (listings settings.quoteAsset assets)).store.addCandles
      (takenBatches source settings.candleLimit store
        (pairs (listings settings.quoteAsset assets) settings.timeframes)) := by
  rw [(run_of_ready ha hr).2.1, importListings, store_importPairs, takenBatches_reconcile]

/-- **The assets after a run**: those before, and the listings that are admitted. -/
theorem assetRows_run : (run settings ranking source store now).store.assetRows =
    AssetRow.upsertAll now
      ((listings settings.quoteAsset assets).filter fun l => store.admits l)
        store.assetRows := by
  have hrows : (run settings ranking source store now).store.assetRows =
      (reconcile now store (listings settings.quoteAsset assets)).store.assetRows := by
    rw [store_run ha hr]
    rfl
  rw [hrows, store_reconcile_of_nodup _ _ (nodup_listings _ _)]
  exact assetRows_putListings_admitted _ _ _

theorem isSome_run :
    (run settings ranking source store now).store.assets.isSome = store.assets.isSome ∧
      (run settings ranking source store now).store.candles.isSome = store.candles.isSome := by
  rw [store_run ha hr]
  refine ⟨?_, ?_⟩
  · rw [Store.assets_addCandles, store_reconcile_of_nodup _ _ (nodup_listings _ _)]
    exact Option.isSome_map
  · rw [← candles_reconcile now store (listings settings.quoteAsset assets)]
    exact Option.isSome_map

/-- **The candles after a run**: those before, and what was taken of each batch. -/
theorem candleRows_run : (run settings ranking source store now).store.candleRows =
    (takenBatches source settings.candleLimit store
      (pairs (listings settings.quoteAsset assets) settings.timeframes)).foldl CandleRow.addTo
        store.candleRows := by
  rw [store_run ha hr, ← takenBatches_reconcile, candleRows_addCandles_takenBatches,
    candleRows_reconcile]

theorem unwritten_run : (run settings ranking source store now).pairs.map PairOutcome.unwritten =
    (pairs (listings settings.quoteAsset assets) settings.timeframes).map
      (store.attempt source settings.candleLimit) := by
  rw [(run_of_ready ha hr).2.2.1, importListings, outcomes_importPairs, attempt_reconcile,
    List.map_nil, List.nil_append]

theorem accepted_of_isOk_run (hwell : ∀ o ∈ (run settings ranking source store now).pairs,
    o.result.isOk = true) {pair : String × Timeframe}
    (hp : pair ∈ pairs (listings settings.quoteAsset assets) settings.timeframes) :
    store.accepted (pairBatch source settings.candleLimit pair) =
      pairBatch source settings.candleLimit pair := by
  have hattempt : store.attempt source settings.candleLimit pair ∈
      (run settings ranking source store now).pairs.map PairOutcome.unwritten :=
    unwritten_run ha hr ▸ List.mem_map_of_mem hp
  obtain ⟨o, ho, he⟩ := List.mem_map.mp hattempt
  have hok := hwell o ho
  rw [← isOk_unwritten, he, Store.attempt] at hok
  cases hb : store.batchRefusal? (pairBatch source settings.candleLimit pair) with
  | none => exact Store.accepted_of_unrefused hb
  | some e =>
    rw [hb] at hok
    cases hok

theorem writtenBy_run : writtenBy (run settings ranking source store now).pairs +
    store.candleRows.length = (run settings ranking source store now).store.candleRows.length := by
  rw [(run_of_ready ha hr).2.2.1, (run_of_ready ha hr).2.1, importListings]
  have h := written_importPairs source settings.candleLimit
    { outcomes := [], store := (reconcile now store (listings settings.quoteAsset assets)).store
      gate := { pause := settings.rateDelay }, clock := now, events := [] }
    (pairs (listings settings.quoteAsset assets) settings.timeframes)
  have hnil : writtenBy [] = 0 := rfl
  rwa [candleRows_reconcile, hnil, Nat.zero_add] at h

end Ready

end Whole

/-! ## A small run -/

namespace SmallRun

/-- Hourly and daily candles against one quote asset. -/
def settings : RunSettings where
  topN := 3
  timeframes := [.oneHour, .oneDay]
  candleLimit := 200
  rateDelay := 50
  quoteAsset := "USDT"

/-- Two assets, of which the first comes under two tickers. -/
def ranking : Ranking := fun _ =>
  { assets := .ok [⟨"btc", "Bitcoin", "b.png"⟩, ⟨" BTC", "Clone", ""⟩, ⟨"eth", "Ether", ""⟩] }

/-- A row with the given open time and open price. -/
def row (openTime : Int) (openPrice : String) : Row :=
  [.integer openTime, .text openPrice, .text "110", .text "90", .text "105", .text "50"]

/-- The candle of such a row as it is stored, with the encoding of its open price. -/
def candle (openTime : Int) (openPrice : UInt64) : Candle where
  openTime := openTime
  openPrice := ⟨openPrice⟩
  highPrice := ⟨0x405b800000000000⟩
  lowPrice := ⟨0x4056800000000000⟩
  closePrice := ⟨0x405a400000000000⟩
  volume := ⟨0x4049000000000000⟩

/-- Every pair gets two prices for one minute, a price for the next, and a row that is no candle. -/
def source : CandleSource := fun _ =>
  { rows := [row 0 "100", row 0 "101", row 60000 "102", [.null]], latency := 7 }

/-- One asset is stored and inactive; the other cannot be registered, and one pair of the first
cannot be written. -/
def store : Store :=
  let stored : AssetRow := ⟨1, "ETHUSDT", "Old", "Futures", none, false, some 5, none⟩
  let assets := Store.migrated.assets.map fun table => { table with rows := [stored] }
  { Store.migrated with assets }.disturb .ready [AssetPattern.guard ⟨.insert, "BTCUSDT"⟩]
    [CandlePattern.guard ⟨.insert, "ETHUSDT", some "1d", none⟩]

/-- What the run reports. -/
def report : RunReport :=
  { assetsReconciled := 1, assetsFailed := 1, pairsAttempted := 4, pairsFailed := 1
    candlesFetched := 12, candlesAttempted := 9, candlesWritten := 6 }

theorem ends_well : (run settings ranking source store 0).outcome = .ok report := by
  decide +kernel

end SmallRun

end CandleArchive
