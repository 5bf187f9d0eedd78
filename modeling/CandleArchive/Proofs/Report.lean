import CandleArchive.Proofs.Isolation
import Mathlib.Algebra.Order.BigOperators.Group.List
import Mathlib.Algebra.Order.Ring.Nat

/-!
# Reports — what a report tells about the store

The counters of a run grow pair by pair, while the store changes under them. In the end each of them
is a number that the store before the run, the listings and the answers determine.

* `answerFor`, `Store.failsOn`: the answer for a pair, and whether its import fails;
* `ImportCounts.total_eq`, `filterMap_attempt`: the counts of several pairs;
* `expectedReport`, **`report_run`**: the report of a run in closed form;
* `RunReport.Accounts`, **`report_accounts`**: a report and the tables before and after the run.
-/

namespace CandleArchive

/-- The rows that a source answers for a pair. -/
def answerFor (source : CandleSource) (limit : Nat) (pair : String × Timeframe) : List Row :=
  (source (pairRequest limit pair)).rows

/-- The import of a pair fails: its answer has candles, and writing them is refused. -/
def Store.failsOn (source : CandleSource) (limit : Nat) (store : Store)
    (pair : String × Timeframe) : Bool :=
  candlesOf (answerFor source limit pair) ≠ [] ∧
    (store.refusal? (insertCandles (pairBatch source limit pair))).isSome

/-! ## Several pairs -/

theorem ImportCounts.total_eq (counts : List ImportCounts) :
    total counts =
      ⟨(counts.map fetched).sum, (counts.map attempted).sum, (counts.map written).sum⟩ := by
  induction counts with
  | nil => rfl
  | cons c counts ih =>
    rw [total_cons, ih, add]
    simp only [List.map_cons, List.sum_cons]

section Attempts

variable {source : CandleSource} {limit : Nat} {store : Store}

theorem pairBatch_eq_nil {pair : String × Timeframe} :
    pairBatch source limit pair = [] ↔ candlesOf (answerFor source limit pair) = [] :=
  batch_eq_nil

theorem length_pairBatch (pair : String × Timeframe) :
    (pairBatch source limit pair).length = (candlesOf (answerFor source limit pair)).length :=
  length_batch _

theorem not_failsOn_of_empty {pair : String × Timeframe} (h : answerFor source limit pair = []) :
    store.failsOn source limit pair = false := by
  simp [Store.failsOn, h, candlesOf]

section Each

variable (source limit store) (pair : String × Timeframe)

theorem isSome_batchRefusal? :
    (store.batchRefusal? (pairBatch source limit pair)).isSome = store.failsOn source limit pair := by
  rw [Store.batchRefusal?, Store.failsOn]
  split_ifs with h
  · simp [pairBatch_eq_nil.mp h]
  · simp [mt pairBatch_eq_nil.mpr h]

theorem toOption_attempt :
    (store.attempt source limit pair).result.toOption =
      if store.failsOn source limit pair then none
      else some (answerCounts pair.1 pair.2 (answerFor source limit pair)) := by
  rw [Store.attempt, ← isSome_batchRefusal?]
  cases store.batchRefusal? (pairBatch source limit pair) with
  | none => rfl
  | some e => rfl

theorem isOk_attempt :
    (store.attempt source limit pair).result.isOk = !store.failsOn source limit pair := by
  rw [Store.attempt, ← isSome_batchRefusal?]
  cases store.batchRefusal? (pairBatch source limit pair) with
  | none => rfl
  | some e => rfl

end Each

section Several

variable (source limit store) (ps : List (String × Timeframe))

/-- **The pairs that are counted** are those whose import does not fail. -/
theorem filterMap_attempt :
    (ps.map (store.attempt source limit)).filterMap (·.result.toOption) =
      (ps.filter fun pair => !store.failsOn source limit pair).map fun pair =>
        answerCounts pair.1 pair.2 (answerFor source limit pair) := by
  induction ps with
  | nil => rfl
  | cons pair ps ih =>
    have hp := toOption_attempt source limit store pair
    cases hf : store.failsOn source limit pair with
    | true =>
      simp only [hf, if_true] at hp
      simp [hp, hf, ih]
    | false =>
      simp only [hf, Bool.false_eq_true, if_false] at hp
      simp [hp, hf, ih]

theorem length_takenBatches :
    (takenBatches source limit store ps).length =
      ((ps.filter fun pair => !store.failsOn source limit pair).map fun pair =>
        (candlesOf (answerFor source limit pair)).length).sum := by
  induction ps with
  | nil => rfl
  | cons pair ps ih =>
    rw [takenBatches, List.flatMap_cons, List.length_append, ← takenBatches, ih, Store.accepted]
    have hf := isSome_batchRefusal? source limit store pair
    cases hr : store.batchRefusal? (pairBatch source limit pair) with
    | none =>
      have hn : store.failsOn source limit pair = false := by rw [← hf, hr]; rfl
      simp [hn, length_pairBatch]
    | some e =>
      have hn : store.failsOn source limit pair = true := by rw [← hf, hr]; rfl
      simp [hn]

theorem countP_empty :
    ((ps.filter fun pair => !store.failsOn source limit pair).countP fun pair =>
        (answerFor source limit pair).length = 0) =
      ps.countP fun pair => answerFor source limit pair = [] := by
  rw [List.countP_filter]
  refine List.countP_congr fun pair _ => ?_
  -- a pair without rows submits nothing, so nothing of it can be refused
  have hfails : answerFor source limit pair = [] → store.failsOn source limit pair = false :=
    not_failsOn_of_empty
  simp only [List.length_eq_zero_iff, Bool.and_eq_true, decide_eq_true_eq, Bool.not_eq_true']
  exact ⟨And.left, fun h => ⟨h, hfails h⟩⟩

theorem summary_attempts (registered : ReconcileReport) :
    let counted := ps.filter fun pair => !store.failsOn source limit pair
    RunReport.summary registered (ps.map (store.attempt source limit)) =
      { assetsReconciled := registered.upserted
        assetsFailed := registered.failed.length
        pairsAttempted := ps.length
        pairsEmpty := ps.countP fun pair => answerFor source limit pair = []
        pairsFailed := ps.countP (store.failsOn source limit)
        candlesFetched := (counted.map fun pair => (answerFor source limit pair).length).sum
        candlesAttempted :=
          (counted.map fun pair => (candlesOf (answerFor source limit pair)).length).sum
        candlesWritten := 0 } := by
  intro counted
  have hcounts := filterMap_attempt source limit store ps
  have hempty := countP_empty source limit store ps
  have hfailed : ps.length - counted.length = ps.countP (store.failsOn source limit) := by
    have hsplit := countP_add_countP_not (store.failsOn source limit) ps
    have hcounted : (ps.countP fun pair => !store.failsOn source limit pair) = counted.length :=
      List.countP_eq_length_filter
    omega
  simp only [RunReport.summary, hcounts, ImportCounts.total_eq, List.map_map, List.countP_map,
    List.length_map, Function.comp_def, answerCounts, hempty, length_batch]
  simp [counted, hfailed]

end Several

end Attempts

/-! ## Whole runs -/

/-- The report of a run of the listings in terms of the store before it. -/
def expectedReport (settings : RunSettings) (source : CandleSource) (ls : List Listing)
    (store : Store) : RunReport :=
  let ps := pairs ls settings.timeframes
  let answer := answerFor source settings.candleLimit
  let counted := ps.filter fun pair => !store.failsOn source settings.candleLimit pair
  { assetsReconciled := ls.countP fun l => store.admits l
    assetsFailed := ls.countP fun l => !store.admits l
    pairsAttempted := ls.length * settings.timeframes.length
    pairsEmpty := ps.countP fun pair => answer pair = []
    pairsFailed := ps.countP (store.failsOn source settings.candleLimit)
    candlesFetched := (counted.map fun pair => (answer pair).length).sum
    candlesAttempted := (counted.map fun pair => (candlesOf (answer pair)).length).sum
    candlesWritten :=
      (firstPerKey CandleRow.key store.candleKeys
        (takenBatches source settings.candleLimit store ps)).length }

theorem length_pairs (ls : List Listing) (timeframes : List Timeframe) :
    (pairs ls timeframes).length = ls.length * timeframes.length := by
  simp [pairs, List.length_flatMap]

section Whole

variable {settings : RunSettings} {ranking : Ranking} {source : CandleSource} {store : Store}
  {now : Nat} {assets : List MarketAsset} {report : RunReport}

theorem registered_reconcile (now : Int) (store : Store) {ls : List Listing}
    (hd : (ls.map Listing.symbol).Nodup) :
    (reconcile now store ls).report.upserted = (ls.countP fun l => store.admits l) ∧
      (reconcile now store ls).report.failed.length =
        ls.countP fun l => !store.admits l := by
  refine ⟨?_, ?_⟩
  · rw [upserted_reconcile, registeredSymbols_of_nodup now store hd, List.length_map,
      ← List.countP_eq_length_filter]
  · rw [failed_reconcile_of_nodup now store hd, List.length_map, ← List.countP_eq_length_filter]

theorem writtenBy_run_eq (ha : (ranking settings.topN).assets = .ok assets)
    (hr : store.connection = .ready) :
    writtenBy (run settings ranking source store now).pairs =
      (firstPerKey CandleRow.key store.candleKeys (takenBatches source settings.candleLimit store
        (pairs (listings settings.quoteAsset assets) settings.timeframes))).length := by
  have hw : writtenBy (run settings ranking source store now).pairs + _ = _ := writtenBy_run ha hr
  rw [candleRows_run ha hr, CandleRow.foldl_addTo, List.length_append, CandleRow.length_numbered,
    ← Store.candleKeys] at hw
  omega

/-- **The report of a run** in closed form. -/
theorem report_run (ha : (ranking settings.topN).assets = .ok assets)
    (hr : store.connection = .ready) :
    (run settings ranking source store now).outcome =
      .ok (expectedReport settings source (listings settings.quoteAsset assets) store) := by
  rw [outcome_run ha hr]
  congr 1
  set ls := listings settings.quoteAsset assets
  set os := (run settings ranking source store now).pairs
  obtain ⟨hup, hfail⟩ := registered_reconcile now store (nodup_listings settings.quoteAsset assets)
  have hos : os.map PairOutcome.unwritten = (pairs ls settings.timeframes).map
      (store.attempt source settings.candleLimit) := unwritten_run ha hr
  have hsum := summary_unwritten (reconcile now store ls).report os
  rw [hos, summary_attempts, hup, hfail, length_pairs] at hsum
  have hw : writtenBy os = _ := writtenBy_run_eq ha hr
  -- the report without its written candles is that on attempts, and `hw` gives the written ones
  rw [expectedReport, ← hw, ← candlesWritten_summary (reconcile now store ls).report]
  generalize RunReport.summary (reconcile now store ls).report os = report at hsum ⊢
  obtain ⟨⟩ := report
  simpa using hsum.symm

/-- What a report tells of the listings `ls`, of which those under the symbols `registered` went
through, and of their pairs with the timeframes, between the store before and the store after. -/
structure RunReport.Accounts (report : RunReport) (ls : List Listing) (registered : List String)
    (timeframes : List Timeframe) (answer : String × Timeframe → List Row)
    (fails : String × Timeframe → Bool) (before after : Store) : Prop where
  listings : report.assetsReconciled + report.assetsFailed = ls.length
  reconciled : report.assetsReconciled = registered.length
  attempts : report.pairsAttempted = ls.length * timeframes.length
  empty : report.pairsEmpty = (pairs ls timeframes).countP fun pair => answer pair = []
  failed : report.pairsFailed = (pairs ls timeframes).countP fails
  fetched : report.candlesFetched =
    (((pairs ls timeframes).filter (!fails ·)).map fun pair => (answer pair).length).sum
  attempted : report.candlesAttempted =
    (((pairs ls timeframes).filter (!fails ·)).map fun pair => (candlesOf (answer pair)).length).sum
  candles : after.candleRows.length = before.candleRows.length + report.candlesWritten
  assets : after.assetRows.length = before.assetRows.length +
    ls.countP fun l => l.symbol ∈ registered ∧ l.symbol ∉ before.assetRows.map AssetRow.symbol
  written_le : report.candlesWritten ≤ report.candlesAttempted
  attempted_le : report.candlesAttempted ≤ report.candlesFetched
  pairs_le : report.pairsEmpty + report.pairsFailed ≤ report.pairsAttempted

theorem length_assetRows_run (ha : (ranking settings.topN).assets = .ok assets)
    (hr : store.connection = .ready) :
    let ls := listings settings.quoteAsset assets
    (run settings ranking source store now).store.assetRows.length = store.assetRows.length +
      ls.countP fun l => l.symbol ∈ registeredSymbols now store ls ∧
        l.symbol ∉ store.assetRows.map AssetRow.symbol := by
  intro ls
  have hd : (ls.map Listing.symbol).Nodup := nodup_listings _ _
  have hadm : ((ls.filter fun l => store.admits l).map Listing.symbol).Nodup :=
    hd.sublist (List.filter_sublist.map _)
  rw [assetRows_run ha hr, AssetRow.length_upsertAll now hadm, List.countP_filter]
  congr 1
  refine List.countP_congr fun l hl => ?_
  simp only [mem_registeredSymbols now store hd hl, Bool.and_eq_true, decide_eq_true_eq, and_comm]

theorem accounts_run (ha : (ranking settings.topN).assets = .ok assets)
    (hr : store.connection = .ready) :
    let ls := listings settings.quoteAsset assets
    (expectedReport settings source ls store).Accounts ls (registeredSymbols now store ls)
      settings.timeframes (answerFor source settings.candleLimit)
      (store.failsOn source settings.candleLimit) store
      (run settings ranking source store now).store := by
  intro ls
  have hd : (ls.map Listing.symbol).Nodup := nodup_listings _ _
  have hpairs := length_pairs ls settings.timeframes
  set ps := pairs ls settings.timeframes
  have hwritten : writtenBy (run settings ranking source store now).pairs + _ = _ :=
    writtenBy_run ha hr
  rw [writtenBy_run_eq ha hr] at hwritten
  refine
    { listings := countP_add_countP_not (fun l : Listing => store.admits l) ls
      reconciled := ?_
      attempts := rfl
      empty := rfl
      failed := rfl
      fetched := rfl
      attempted := rfl
      candles := hwritten.symm.trans (Nat.add_comm _ _)
      assets := length_assetRows_run ha hr
      written_le := ?_
      attempted_le := List.sum_le_sum fun pair _ => length_candlesOf_le _
      pairs_le := ?_ }
  · rw [registeredSymbols_of_nodup now store hd, List.length_map, ← List.countP_eq_length_filter]
    rfl
  · have hle := length_firstPerKey_le CandleRow.key store.candleKeys
      (takenBatches source settings.candleLimit store ps)
    rwa [length_takenBatches] at hle
  · -- the empty pairs are among those that do not fail
    have hempty := countP_empty source settings.candleLimit store ps
    have hle : ps.countP (fun pair => answerFor source settings.candleLimit pair = []) ≤
        ps.countP fun pair => !store.failsOn source settings.candleLimit pair := by
      rw [← hempty, List.countP_eq_length_filter (p := fun pair => !_)]
      exact List.countP_le_length
    have hsplit := countP_add_countP_not (store.failsOn source settings.candleLimit) ps
    change ps.countP _ + ps.countP _ ≤ ls.length * settings.timeframes.length
    omega

/-- **The report accounts for the store**: its counts are those of the listings, the pairs, the
answers and the rows by which the tables have grown. -/
theorem report_accounts (h : (run settings ranking source store now).outcome = .ok report) :
    let done := run settings ranking source store now
    let fails := store.failsOn source settings.candleLimit
    ∃ assets, (ranking settings.topN).assets = .ok assets ∧
      let ls := listings settings.quoteAsset assets
      done.pairs.map PairOutcome.pair = pairs ls settings.timeframes ∧
      (∀ o ∈ done.pairs, o.result.isOk = !fails o.pair) ∧
      report.Accounts ls (registeredSymbols now store ls) settings.timeframes
        (answerFor source settings.candleLimit) fails store done.store := by
  intro done fails
  obtain ⟨hr, assets, ha⟩ := ready_of_run_ok h
  -- the outcomes say of each pair what the attempt on the store before the run says
  have hos : done.pairs.map PairOutcome.unwritten = _ := unwritten_run ha hr
  obtain rfl : _ = report := Except.ok.inj ((report_run ha hr).symm.trans h)
  refine ⟨assets, ha, ?_, ?_, accounts_run ha hr⟩
  · have hp := congrArg (List.map PairOutcome.pair) hos
    rw [List.map_map, List.map_map] at hp
    exact hp.trans (List.map_id _)
  · intro o ho
    have hu : o.unwritten ∈ done.pairs.map PairOutcome.unwritten := List.mem_map_of_mem ho
    rw [hos] at hu
    obtain ⟨pair, -, hp⟩ := List.mem_map.mp hu
    have hpair : o.pair = pair := (congrArg PairOutcome.pair hp).symm
    rw [← isOk_unwritten, ← hp, isOk_attempt, hpair]

end Whole

/-- One listing and one pair fail, and the listing that goes through is not new. -/
theorem report_accounts_small :
    let done := run SmallRun.settings SmallRun.ranking SmallRun.source SmallRun.store 0
    done.outcome = .ok SmallRun.report ∧
      SmallRun.report.Accounts [⟨"BTCUSDT", "Bitcoin", "b.png"⟩, ⟨"ETHUSDT", "Ether", ""⟩]
        ["ETHUSDT"] [.oneHour, .oneDay] (answerFor SmallRun.source 200)
        (SmallRun.store.failsOn SmallRun.source 200) SmallRun.store done.store := by
  intro done
  obtain ⟨assets, ha, -, -, haccounts⟩ := report_accounts SmallRun.ends_well
  obtain rfl := Except.ok.inj ha
  have hls : listings SmallRun.settings.quoteAsset
        [⟨"btc", "Bitcoin", "b.png"⟩, ⟨" BTC", "Clone", ""⟩, ⟨"eth", "Ether", ""⟩] =
      [⟨"BTCUSDT", "Bitcoin", "b.png"⟩, ⟨"ETHUSDT", "Ether", ""⟩] := by decide +kernel
  have hregistered : registeredSymbols (0 : Nat) SmallRun.store
      [⟨"BTCUSDT", "Bitcoin", "b.png"⟩, ⟨"ETHUSDT", "Ether", ""⟩] = ["ETHUSDT"] := by decide +kernel
  rw [hls, hregistered] at haccounts
  exact ⟨SmallRun.ends_well, haccounts⟩

end CandleArchive
