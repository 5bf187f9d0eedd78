import CandleArchive.Proofs.Pairs

/-!
# Isolation — a pair in a run is a pair alone

Nothing that happens to other listings and pairs of a run changes what is asked, counted or stored for
a pair: it is imported as if it were the only one.

* `outcomeOf_addCandles`, `outcomeOf_reconcile`: what does not matter for the outcome of a pair;
* **`outcomes_importPairs_of_nodup`**: the outcomes of different pairs;
* `addedFor`, **`addedFor_foldl_addTo`**: the rows that come for a pair;
* **`importPair_alone`**: the import of one pair;
* `pairs_run`, `requestsOf_run`, `addedFor_run`, **`pairs_isolated`**: every pair of a run.
-/

namespace CandleArchive

/-- The pair that an outcome is about. -/
def PairOutcome.pair (o : PairOutcome) : String × Timeframe := (o.symbol, o.timeframe)

/-- The rows of the pair that the later store has and the earlier one has not, surrogate keys
aside. -/
def addedFor (pair : String × Timeframe) (before after : Store) : List CandleRow :=
  (after.candleRows.filter fun row => row ∉ before.candleRows ∧ row.isOf pair).map
    CandleRow.withoutId

variable {source : CandleSource} {limit : Nat} {store : Store} {pair : String × Timeframe}

/-! ## Outcomes -/

theorem outcomeOf_addCandles {more : List CandleRow} (hm : ∀ row ∈ more, row.isOf pair = false) :
    (store.addCandles more).outcomeOf source limit pair = store.outcomeOf source limit pair := by
  have hfree : firstPerKey CandleRow.key (store.addCandles more).candleKeys
        (pairBatch source limit pair) =
      firstPerKey CandleRow.key store.candleKeys (pairBatch source limit pair) :=
    firstPerKey_congr fun row hr => mem_candleKeys_addCandles hm (isOf_of_mem_pairBatch hr)
  unfold Store.outcomeOf
  rw [outcome_importRows, outcome_importRows, batch_pair,
    Store.batchRefusal?_addCandles, hfree]

theorem outcomeOf_reconcile (now : Int) (ls : List Listing) :
    (reconcile now store ls).store.outcomeOf source limit pair =
      store.outcomeOf source limit pair := by
  unfold Store.outcomeOf
  rw [outcome_importRows, outcome_importRows,
    Store.batchRefusal?_reconcile, Store.candleKeys, candleRows_reconcile, ← Store.candleKeys]

/-- **The outcomes of different pairs** are those in the store before all of them. -/
theorem outcomes_importPairs_of_nodup {ps : List (String × Timeframe)} (hd : ps.Nodup)
    (s : RunState) : (importPairs source limit s ps).outcomes =
      s.outcomes ++ ps.map (s.store.outcomeOf source limit) := by
  induction ps generalizing s with
  | nil => simp [importPairs]
  | cons p ps ih =>
    rw [List.nodup_cons] at hd
    have hrest : ps.map ((s.importNext source limit p).store.outcomeOf source limit) =
        ps.map (s.store.outcomeOf source limit) := by
      refine List.map_congr_left fun q hq => ?_
      rw [store_importNext]
      refine outcomeOf_addCandles fun row hr => ?_
      by_contra hrow
      rw [Bool.not_eq_false] at hrow
      exact hd.1 (pair_unique (isOf_of_mem_accepted hr) hrow ▸ hq)
    rw [importPairs, List.foldl_cons, ← importPairs, ih hd.2, hrest, outcomes_importNext,
      List.append_assoc, List.singleton_append, List.map_cons]

/-! ## Added rows -/

/-- **The rows that come for a pair** are its first rows of each free key. -/
theorem addedFor_foldl_addTo {before after : Store} {new : List CandleRow}
    (h : after.candleRows = new.foldl CandleRow.addTo before.candleRows) :
    addedFor pair before after =
      (firstPerKey CandleRow.key before.candleKeys (new.filter (·.isOf pair))).map
        CandleRow.withoutId := by
  have hold : before.candleRows.filter
      (fun row => row ∉ before.candleRows ∧ row.isOf pair) = [] :=
    List.filter_eq_nil_iff.mpr fun row hr h => (of_decide_eq_true h).1 hr
  have hnew : ∀ row ∈ CandleRow.numbered before.candleRows.length
      (firstPerKey CandleRow.key before.candleKeys new), row ∉ before.candleRows := by
    intro row hr hb
    have hk := List.mem_map_of_mem (f := CandleRow.key) hr
    rw [CandleRow.map_key_numbered, mem_map_firstPerKey] at hk
    exact hk.2 (List.mem_map_of_mem hb)
  have hpart : (CandleRow.numbered before.candleRows.length
        (firstPerKey CandleRow.key before.candleKeys new)).filter
          (fun row => row ∉ before.candleRows ∧ row.isOf pair) =
      (CandleRow.numbered before.candleRows.length
        (firstPerKey CandleRow.key before.candleKeys new)).filter (·.isOf pair) :=
    List.filter_congr fun row hr => by simp [hnew row hr]
  rw [addedFor, h, CandleRow.foldl_addTo, List.filter_append, hold, List.nil_append,
    ← Store.candleKeys, hpart, CandleRow.map_withoutId_filter_numbered (fun _ _ => rfl),
    filter_firstPerKey fun _ _ hk => CandleRow.isOf_congr hk]

theorem addedFor_accepted : addedFor pair store
      (store.addCandles (store.accepted (pairBatch source limit pair))) =
    (firstPerKey CandleRow.key store.candleKeys
      (store.accepted (pairBatch source limit pair))).map CandleRow.withoutId := by
  have hown : (store.accepted (pairBatch source limit pair)).filter (·.isOf pair) =
      store.accepted (pairBatch source limit pair) :=
    List.filter_eq_self.mpr fun row hr => isOf_of_mem_accepted hr
  rw [addedFor_foldl_addTo (Store.candleRows_addCandles_accepted store _), hown]

theorem accepted_of_error {e : ImportError}
    (h : (store.outcomeOf source limit pair).result = .error e) :
    store.accepted (pairBatch source limit pair) = [] := by
  obtain ⟨refusal, hr, -⟩ := outcome_importRows_eq_error.mp h
  exact Store.accepted_of_refused hr

/-- **A pair alone**: what its import asks, counts and stores. -/
theorem importPair_alone {importer : Importer} (hl : importer.limit = limit)
    (hs : importer.source (pairRequest limit pair) = source (pairRequest limit pair))
    (store : Store) (clock : Nat) :
    let alone := importer.importPair pair.1 pair.2 store clock
    requestsOf alone.events =
        pairRequest limit pair :: requestsOf (source (pairRequest limit pair)).events ∧
      alone.outcome = (store.outcomeOf source limit pair).result ∧
      alone.store = store.addCandles (store.accepted (pairBatch source limit pair)) := by
  intro alone
  subst hl
  have hasked : requestsOf alone.events = pairRequest importer.limit pair ::
      requestsOf (importer.source (pairRequest importer.limit pair)).events :=
    requestsOf_importPair importer store clock
  have hstore : alone.store = store.addCandles
      (store.accepted (pairBatch importer.source importer.limit pair)) :=
    store_importPair importer store clock
  unfold Store.outcomeOf
  unfold pairBatch at hstore ⊢
  rw [← hs]
  exact ⟨hasked, rfl, hstore⟩

/-! ## Whole runs -/

section Whole

variable {settings : RunSettings} {ranking : Ranking} {now : Nat} {assets : List MarketAsset}
  {report : RunReport}

theorem pairs_run (ha : (ranking settings.topN).assets = .ok assets) (hr : store.connection = .ready)
    (hd : settings.timeframes.Nodup) : (run settings ranking source store now).pairs =
      (pairs (listings settings.quoteAsset assets) settings.timeframes).map
        (store.outcomeOf source settings.candleLimit) := by
  rw [(run_of_ready ha hr).2.2.1, importListings,
    outcomes_importPairs_of_nodup (nodup_pairs (nodup_listings _ _) hd), List.nil_append]
  exact List.map_congr_left fun pair _ => outcomeOf_reconcile _ _

theorem requestsOf_run (ha : (ranking settings.topN).assets = .ok assets)
    (hr : store.connection = .ready) : requestsOf (run settings ranking source store now).events =
      requestsOf (ranking settings.topN).events ++
        (pairs (listings settings.quoteAsset assets) settings.timeframes).flatMap fun pair =>
          pairRequest settings.candleLimit pair ::
            requestsOf (source (pairRequest settings.candleLimit pair)).events := by
  rw [(run_of_ready ha hr).2.2.2, importListings, requestsOf_importPairs]
  rfl

theorem addedFor_run (ha : (ranking settings.topN).assets = .ok assets)
    (hr : store.connection = .ready) (hd : settings.timeframes.Nodup)
    (hp : pair ∈ pairs (listings settings.quoteAsset assets) settings.timeframes) :
    addedFor pair store (run settings ranking source store now).store = addedFor pair store
      (store.addCandles (store.accepted (pairBatch source settings.candleLimit pair))) := by
  rw [addedFor_foldl_addTo (candleRows_run ha hr),
    filter_takenBatches (nodup_pairs (nodup_listings _ _) hd) hp, addedFor_accepted]

/-- **Every pair of a run is imported as if it were alone**, in the store before the run. -/
theorem pairs_isolated (h : (run settings ranking source store now).outcome = .ok report)
    (hd : settings.timeframes.Nodup) :
    let done := run settings ranking source store now
    let request := pairRequest settings.candleLimit
    ∃ assets, (ranking settings.topN).assets = .ok assets ∧
      let ps := pairs (listings settings.quoteAsset assets) settings.timeframes
      ps.Nodup ∧ done.pairs.map PairOutcome.pair = ps ∧
      requestsOf done.events = requestsOf (ranking settings.topN).events ++
        ps.flatMap (fun pair => request pair :: requestsOf (source (request pair)).events) ∧
      ∀ o ∈ done.pairs, ∀ (importer : Importer) (clock : Nat),
        importer.limit = settings.candleLimit →
        importer.source (request o.pair) = source (request o.pair) →
        let alone := importer.importPair o.symbol o.timeframe store clock
        requestsOf alone.events =
            request o.pair :: requestsOf (source (request o.pair)).events ∧
          o.result = alone.outcome ∧
          addedFor o.pair store done.store = addedFor o.pair store alone.store ∧
          ∀ e, o.result = .error e → addedFor o.pair store done.store = [] := by
  intro done request
  obtain ⟨hr, assets, ha⟩ := ready_of_run_ok h
  have hps := nodup_pairs (nodup_listings settings.quoteAsset assets) hd
  have hpairs : done.pairs = _ := pairs_run ha hr hd
  refine ⟨assets, ha, hps, ?_, requestsOf_run ha hr, ?_⟩
  · rw [hpairs, List.map_map]
    exact List.map_id _
  intro o ho importer clock hl hs
  rw [hpairs] at ho
  obtain ⟨pair, hp, rfl⟩ := List.mem_map.mp ho
  have hpair : (store.outcomeOf source settings.candleLimit pair).pair = pair := rfl
  rw [hpair] at hs ⊢
  obtain ⟨hasked, hout, hstore⟩ := importPair_alone hl hs store clock
  have hrun : addedFor pair store done.store = _ := addedFor_run ha hr hd hp
  refine ⟨hasked, hout.symm, ?_, fun e he => ?_⟩
  · rw [hrun, ← hstore]
    rfl
  · rw [hrun, addedFor_accepted, accepted_of_error he]
    rfl

/-- One pair of four fails, after one listing of two. -/
theorem pairs_isolated_small :
    (run SmallRun.settings SmallRun.ranking SmallRun.source SmallRun.store 0).outcome =
        .ok SmallRun.report ∧
      SmallRun.settings.timeframes.Nodup ∧
      (run SmallRun.settings SmallRun.ranking SmallRun.source SmallRun.store 0).pairs.map
          PairOutcome.pair =
        [("BTCUSDT", .oneHour), ("BTCUSDT", .oneDay), ("ETHUSDT", .oneHour), ("ETHUSDT", .oneDay)] ∧
      addedFor ("ETHUSDT", .oneDay) SmallRun.store
        (run SmallRun.settings SmallRun.ranking SmallRun.source SmallRun.store 0).store = [] := by
  obtain ⟨assets, ha, -, hps, -, hall⟩ := pairs_isolated SmallRun.ends_well (by decide)
  obtain rfl := Except.ok.inj ha
  refine ⟨SmallRun.ends_well, by decide, hps, ?_⟩
  have hmem : ("ETHUSDT", Timeframe.oneDay) ∈ (run SmallRun.settings SmallRun.ranking SmallRun.source
      SmallRun.store 0).pairs.map PairOutcome.pair := by
    rw [hps]
    decide
  obtain ⟨o, ho, hp⟩ := List.mem_map.mp hmem
  obtain ⟨-, hresult, -, hadded⟩ := hall o ho ⟨SmallRun.source, 200, { pause := 50 }⟩ 0 rfl rfl
  have hs : o.symbol = "ETHUSDT" := congrArg Prod.fst hp
  have ht : o.timeframe = .oneDay := congrArg Prod.snd hp
  rw [hs, ht] at hresult
  have hfails : (Importer.importPair ⟨SmallRun.source, 200, { pause := 50 }⟩ "ETHUSDT" .oneDay
      SmallRun.store 0).outcome = .error (.candleWrite "ETHUSDT" .oneDay guardRefusal) := by
    decide +kernel
  rw [← hp]
  exact hadded _ (hresult.trans hfails)

end Whole

end CandleArchive
