import CandleArchive.Proofs.Run

/-!
# Repeated runs — a run with the same answers changes nothing

After a run every key that was taken is stored and every listing that goes through shows, so a second
run with the same answers finds nothing to write.

* `mem_candleKeys_of_mem_takenBatches`, `shows_of_admits`: what a run leaves behind;
* `reconcile_again`, `addCandles_again`: its two parts for the second time;
* `store_rerun`, **`rerun_changes_nothing`**: the second run.
-/

namespace CandleArchive

variable {settings : RunSettings} {ranking : Ranking} {source : CandleSource} {store : Store}
  {now : Nat} {report : RunReport}

theorem mem_candleKeys_of_mem_takenBatches {limit : Nat} {ps : List (String × Timeframe)}
    {row : CandleRow} (h : row ∈ takenBatches source limit store ps) :
    row.key ∈ (store.addCandles (takenBatches source limit store ps)).candleKeys := by
  rw [Store.candleKeys, candleRows_addCandles_takenBatches, CandleRow.map_key_foldl_addTo,
    List.mem_append]
  by_cases hk : row.key ∈ store.candleRows.map CandleRow.key
  · exact .inl hk
  · exact .inr (mem_map_firstPerKey.mpr ⟨List.mem_map_of_mem h, hk⟩)

/-- Every listing that goes through after its registration shows already. -/
theorem shows_of_admits {now : Int} {ls : List Listing} (hd : (ls.map Listing.symbol).Nodup)
    {l : Listing} (hl : l ∈ ls) (h : (reconcile now store ls).store.admits l = true) :
    AssetRow.Shows (reconcile now store ls).store.assetRows l := by
  rw [store_reconcile_of_nodup now store hd] at h ⊢
  -- a listing that is refused is not upserted, so it is refused again
  have hb : store.admits l = true := by
    by_contra hrefused
    have hout := mt (symbol_mem_filter hd hl store.admits).mp hrefused
    exact hrefused ((admits_putListings hout).symm.trans h)
  rw [assetRows_putListings_admitted]
  exact AssetRow.shows_upsertAll (hd.sublist (List.filter_sublist.map _))
    (List.mem_filter.mpr ⟨hl, hb⟩) _

/-- A registration that follows itself changes nothing. -/
theorem reconcile_again (now later : Int) (store : Store) {ls : List Listing}
    (hd : (ls.map Listing.symbol).Nodup) (taken : List CandleRow) :
    (reconcile later ((reconcile now store ls).store.addCandles taken) ls).store =
      (reconcile now store ls).store.addCandles taken := by
  have hshows : ∀ l ∈ ls, (reconcile now store ls).store.admits l = true →
      AssetRow.Shows (reconcile now store ls).store.assetRows l :=
    fun l hl hadm => shows_of_admits hd hl hadm
  generalize (reconcile now store ls).store = after at hshows ⊢
  exact store_reconcile_eq_self hshows

/-- Batches that follow themselves leave nothing behind. -/
theorem addCandles_again (source : CandleSource) (limit : Nat) (store : Store)
    (ps : List (String × Timeframe)) :
    (store.addCandles (takenBatches source limit store ps)).addCandles
        (takenBatches source limit store ps) =
      store.addCandles (takenBatches source limit store ps) :=
  Store.addCandles_eq_self fun _ hrow => mem_candleKeys_of_mem_takenBatches hrow

section Replay

variable {again : Ranking} {replay : CandleSource} {later : Nat} {assets : List MarketAsset}

theorem pairBatch_congr (hs : ∀ request, (replay request).rows = (source request).rows) (limit : Nat) :
    pairBatch replay limit = pairBatch source limit := by
  funext pair
  unfold pairBatch
  rw [hs]

theorem attempt_congr (hs : ∀ request, (replay request).rows = (source request).rows) (limit : Nat) :
    store.attempt replay limit = store.attempt source limit := by
  funext pair
  unfold Store.attempt
  rw [pairBatch_congr hs, hs]

theorem connection_run (ha : (ranking settings.topN).assets = .ok assets)
    (hr : store.connection = .ready) :
    (run settings ranking source store now).store.connection = .ready := by
  rw [store_run ha hr, Store.connection_addCandles, connection_reconcile, hr]

theorem store_rerun (ha : (ranking settings.topN).assets = .ok assets)
    (ha' : (again settings.topN).assets = .ok assets) (hr : store.connection = .ready)
    (hs : ∀ request, (replay request).rows = (source request).rows) :
    (run settings again replay (run settings ranking source store now).store later).store =
      (run settings ranking source store now).store := by
  rw [store_run ha' (connection_run ha hr), store_run ha hr, reconcile_again _ _ _ (nodup_listings _ _),
    takenBatches_addCandles, takenBatches, pairBatch_congr hs, ← takenBatches,
    ← takenBatches_reconcile source _ now store, addCandles_again]

/-- **A run can be repeated**: a second one with the same ranking and rows writes no candle and
leaves every row as it is. -/
theorem rerun_changes_nothing
    (h : (run settings ranking source store now).outcome = .ok report)
    (ha : (again settings.topN).assets = (ranking settings.topN).assets)
    (hs : ∀ request, (replay request).rows = (source request).rows) :
    let first := run settings ranking source store now
    let second := run settings again replay first.store later
    second.store = first.store ∧
      ∃ report', second.outcome = .ok report' ∧ report'.candlesWritten = 0 ∧
        report'.pairsAttempted = report.pairsAttempted ∧ report'.pairsEmpty = report.pairsEmpty ∧
        report'.pairsFailed = report.pairsFailed ∧
        report'.candlesFetched = report.candlesFetched ∧
        report'.candlesAttempted = report.candlesAttempted := by
  intro first second
  obtain ⟨hr, assets, hk⟩ := ready_of_run_ok h
  have hk' : (again settings.topN).assets = .ok assets := ha.trans hk
  have hr' : first.store.connection = .ready := connection_run hk hr
  have hstore : second.store = first.store := store_rerun hk hk' hr hs
  have hpairs : second.pairs.map PairOutcome.unwritten = first.pairs.map PairOutcome.unwritten := by
    rw [show second.pairs.map _ = _ from unwritten_run hk' hr',
      show first.pairs.map _ = _ from unwritten_run hk hr,
      show first.store = _ from store_run hk hr, attempt_addCandles, attempt_reconcile,
      attempt_congr hs]
  -- no row came, so none was written
  have hwritten : writtenBy second.pairs = 0 := by
    have hw : writtenBy second.pairs + first.store.candleRows.length =
        second.store.candleRows.length := writtenBy_run hk' hr'
    rw [hstore] at hw
    omega
  obtain rfl : _ = report := Except.ok.inj ((outcome_run hk hr).symm.trans h)
  refine ⟨hstore, _, outcome_run hk' hr', ?_, summary_congr hpairs⟩
  rw [candlesWritten_summary]
  exact hwritten

end Replay

/-- A second run over refusals, repeated tickers and repeated candles. -/
theorem rerun_changes_nothing_small :
    (run SmallRun.settings SmallRun.ranking SmallRun.source SmallRun.store 0).outcome =
        .ok SmallRun.report ∧
      (run SmallRun.settings SmallRun.ranking SmallRun.source
        (run SmallRun.settings SmallRun.ranking SmallRun.source SmallRun.store 0).store 9).store =
          (run SmallRun.settings SmallRun.ranking SmallRun.source SmallRun.store 0).store :=
  ⟨SmallRun.ends_well, (rerun_changes_nothing SmallRun.ends_well rfl fun _ => rfl).1⟩

end CandleArchive
