import CandleArchive.Proofs.Agreement
import CandleArchive.Proofs.Pairs

/-!
# Recovery — a later run makes up for what an earlier one missed

A run may have had listings and batches refused and answers cut short. When the guards are gone, a
second run over the full answers leaves the tables as one undisturbed run would have left them, and the
two write as many candles as the one.

* **`upsertAll_upsertAll`**: some of the listings first, and then all;
* `find?_cut`, **`agree_foldl_addTo`**: cut batches first, and then the full ones;
* `agree_assets`, `agree_candles`, **`run_recovers`**: two runs.
-/

namespace CandleArchive

/-! ## Listings -/

namespace AssetRow

theorem refresh_refreshBy (l : Listing) (ls : List Listing) (row : AssetRow) :
    (row.refreshBy ls).refresh l = row.refresh l := by
  rw [refreshBy]
  split <;> rfl

theorem refreshBy_refreshBy {all : List Listing} (hd : (all.map Listing.symbol).Nodup)
    {ls : List Listing} (h : ls ⊆ all) (row : AssetRow) :
    (row.refreshBy ls).refreshBy all = row.refreshBy all := by
  by_cases hr : row.symbol ∈ all.map Listing.symbol
  · obtain ⟨l, hl, hs⟩ := List.mem_map.mp hr
    rw [refreshBy_of_mem hd hl (hs.trans (symbol_refreshBy ls row).symm), refresh_refreshBy,
      refreshBy_of_mem hd hl hs]
  · have hn : row.symbol ∉ ls.map Listing.symbol := fun hm => hr (List.map_subset _ h hm)
    rw [refreshBy_of_notMem hn]

theorem map_refreshBy_newRows {all : List Listing} (hd : (all.map Listing.symbol).Nodup) (now : Int)
    (n : Nat) {ls : List Listing} (h : ls ⊆ all) :
    (newRows now n ls).map (refreshBy all) = newRows now n ls := by
  refine (List.map_congr_left fun row hr => ?_).trans (List.map_id _)
  obtain ⟨l, hl, id, rfl⟩ := mem_newRows hr
  rw [refreshBy_of_mem hd (h hl) rfl, refresh_ofListing]
  rfl

/-- What is new for the second time is what was left out the first time. -/
theorem filter_left_out {ls : List Listing} (hd : (ls.map Listing.symbol).Nodup)
    (p : Listing → Bool) (stored : List String) :
    let new := ls.filter fun l => l.symbol ∉ stored
    ls.filter (fun l => l.symbol ∉ stored ++ (new.filter p).map Listing.symbol) =
      new.filter fun l => !p l := by
  intro new
  have hleft : new.filter (fun l => !p l) =
      ls.filter fun l => !p l && decide (l.symbol ∉ stored) := List.filter_filter
  have hnew : new.filter p = ls.filter fun l => p l && decide (l.symbol ∉ stored) :=
    List.filter_filter
  rw [hleft]
  refine List.filter_congr fun l hl => ?_
  have hm : l.symbol ∈ (new.filter p).map Listing.symbol ↔ p l = true ∧ l.symbol ∉ stored := by
    rw [hnew, symbol_mem_filter hd hl, Bool.and_eq_true, decide_eq_true_eq]
  rw [Bool.eq_iff_iff, decide_eq_true_eq, List.mem_append, hm, Bool.and_eq_true,
    decide_eq_true_eq, Bool.not_eq_true']
  cases p l <;> simp

/-- **Some of the listings first, and then all**: the rows are those of all listings at once. -/
theorem upsertAll_upsertAll {ls : List Listing} (hd : (ls.map Listing.symbol).Nodup)
    (p : Listing → Bool) (now later direct : Int) (rows : List AssetRow) :
    AgreeFrom rows.length unstamped
      (upsertAll later ls (upsertAll now (ls.filter p) rows))
      (upsertAll direct ls rows) := by
  let new := ls.filter fun l => l.symbol ∉ rows.map symbol
  have hp : ((ls.filter p).map Listing.symbol).Nodup :=
    hd.sublist (List.filter_sublist.map _)
  have hnow : (ls.filter p).filter (fun l => l.symbol ∉ rows.map symbol) =
      new.filter p := List.filter_comm _ _ _
  have hsub : new.filter p ⊆ ls := fun l hl =>
    (List.mem_filter.mp (List.mem_filter.mp hl).1).1
  have hold : (rows.map (refreshBy (ls.filter p))).map (refreshBy ls) =
      rows.map (refreshBy ls) := by
    rw [List.map_map]
    exact List.map_congr_left fun row _ => refreshBy_refreshBy hd (List.filter_subset_self _) row
  have hsym : (upsertAll now (ls.filter p) rows).map symbol =
      rows.map symbol ++ (new.filter p).map Listing.symbol := by
    rw [upsertAll_eq now hp, hnow, List.map_append, map_symbol_newRows, List.map_map]
    exact congrArg (· ++ _) (List.map_congr_left fun row _ => symbol_refreshBy _ row)
  rw [upsertAll_eq later hd, hsym, filter_left_out hd, upsertAll_eq now hp, hnow, List.map_append, hold,
    map_refreshBy_newRows hd now _ hsub, List.append_assoc, upsertAll_eq direct hd]
  refine agreeFrom_append (List.length_map _) ?_
  rw [List.map_append, map_unstamped_newRows, map_unstamped_newRows, map_unstamped_newRows,
    ← List.map_append]
  exact (List.filter_append_perm p new).map _

end AssetRow

/-! ## Batches -/

section Batches

variable {cut full : CandleSource} {limit : Nat} {store other : Store}

theorem accepted_disturb_congr (h : store.candles.isSome = other.candles.isSome)
    (hl : store.valueLimit = other.valueLimit) (new : List CandleRow) :
    (store.disturb .ready [] []).accepted new = (other.disturb .ready [] []).accepted new := by
  have hg : (store.disturb .ready [] []).candles.map Table.guards =
      (other.disturb .ready [] []).candles.map Table.guards := by
    obtain ⟨c, a, as, cs⟩ := store
    obtain ⟨c', a', as', cs'⟩ := other
    cases cs <;> cases cs' <;> first | rfl | cases h
  have hc : (store.disturb .ready [] []).connection = (other.disturb .ready [] []).connection := rfl
  have hb := Store.batchRefusal?_congr hc hl hg new
  unfold Store.accepted
  rw [hb]

theorem prefix_pairBatch (h : ∀ request, (cut request).rows <+: (full request).rows)
    (pair : String × Timeframe) : pairBatch cut limit pair <+: pairBatch full limit pair :=
  ((h _).filterMap _).map _

/-- What is taken of cut batches comes first in the full ones. -/
theorem find?_cut (h : ∀ request, (cut request).rows <+: (full request).rows)
    {ps : List (String × Timeframe)}
    (ho : ∀ pair ∈ ps, other.accepted (pairBatch full limit pair) = pairBatch full limit pair)
    {k : CandleKey} {row : CandleRow}
    (hrow : (takenBatches cut limit store ps).find? (·.key = k) = some row) :
    (takenBatches full limit other ps).find? (·.key = k) = some row := by
  obtain ⟨pair, hp, hf⟩ := find?_takenBatches_eq_some.mp hrow
  have hne : store.accepted (pairBatch cut limit pair) ≠ [] := fun e => by simp [e] at hf
  have hacc : store.accepted (pairBatch cut limit pair) = pairBatch cut limit pair :=
    (store.accepted_eq_or_nil _).resolve_right hne
  refine find?_takenBatches hp ?_
  rw [ho pair hp]
  rw [hacc] at hf
  exact (prefix_pairBatch h pair).find?_eq_some hf

/-- **Part of the rows first, and then all**: the rows are those of all at once. -/
theorem agree_foldl_addTo {some all : List CandleRow}
    (h : ∀ k row, some.find? (·.key = k) = Option.some row → all.find? (·.key = k) = Option.some row)
    (rows : List CandleRow) :
    AgreeFrom rows.length CandleRow.withoutId
      (all.foldl CandleRow.addTo (some.foldl CandleRow.addTo rows))
      (all.foldl CandleRow.addTo rows) := by
  have hfind : ∀ k, (some ++ all).find? (·.key = k) = all.find? (·.key = k) := by
    intro k
    rw [List.find?_append]
    cases hk : some.find? (·.key = k) with
    | none => rw [Option.none_or]
    | some row => rw [Option.some_or, h k row hk]
  rw [← List.foldl_append]
  exact agree_foldl_addTo_of_find? hfind rows

end Batches

/-! ## Runs -/

section Runs

variable {settings : RunSettings} {ranking : Ranking} {cut full : CandleSource} {store : Store}
  {connection : Connection} {assetGuards : List (Guard AssetRow)}
  {candleGuards : List (Guard CandleRow)} {now later direct : Nat} {assets : List MarketAsset}

theorem admits_disturb (store : Store) (cg : List (Guard CandleRow)) (l : Listing) :
    (store.disturb .ready [] cg).admits l = store.assets.isSome := by
  cases h : store.assets with
  | none => simp [Store.admits, Store.disturb, h]
  | some table => simp [Store.admits, Store.disturb, h, AssetTable.refuses]

theorem agree_assets (ha : (ranking settings.topN).assets = .ok assets)
    (hr : (store.disturb connection assetGuards candleGuards).connection = .ready) :
    let first := run settings ranking cut (store.disturb connection assetGuards candleGuards) now
    AgreeFrom store.assetRows.length AssetRow.unstamped
      (run settings ranking full (first.store.disturb .ready [] []) later).store.assetRows
      (run settings ranking full (store.disturb .ready [] []) direct).store.assetRows := by
  intro first
  set ls := listings settings.quoteAsset assets
  set disturbed := store.disturb connection assetGuards candleGuards
  have hsome : disturbed.assets.isSome = store.assets.isSome := Option.isSome_map
  have hfirst : first.store.assets.isSome = disturbed.assets.isSome := (isSome_run ha hr).1
  -- the listings that go through first are some of those that go through in the end
  have hpart : ls.filter (fun l => disturbed.admits l) =
      (ls.filter fun _ => store.assets.isSome).filter fun l => disturbed.admits l := by
    rw [List.filter_filter]
    refine List.filter_congr fun l _ => ?_
    cases hadm : disturbed.admits l with
    | false => rfl
    | true => rw [← hsome, Store.assets_isSome_of_admits hadm, Bool.and_self]
  have hd : ((ls.filter fun _ => store.assets.isSome).map Listing.symbol).Nodup :=
    (nodup_listings _ _).sublist (List.filter_sublist.map _)
  rw [assetRows_run ha rfl, assetRows_run ha rfl]
  simp only [admits_disturb, Store.assetRows_disturb, hfirst, hsome]
  rw [show first.store.assetRows = _ from assetRows_run ha hr, hpart, Store.assetRows_disturb]
  exact AssetRow.upsertAll_upsertAll hd _ _ _ _ _

theorem valueLimit_run (ha : (ranking settings.topN).assets = .ok assets)
    (hr : store.connection = .ready) :
    (run settings ranking cut store now).store.valueLimit = store.valueLimit := by
  rw [store_run ha hr]
  exact valueLimit_reconcile _ _ _

/-- **The candles after two runs**, of which the first has guards and gets answers that are cut. -/
theorem agree_candles (ha : (ranking settings.topN).assets = .ok assets)
    (hr : (store.disturb connection assetGuards candleGuards).connection = .ready)
    (hcut : ∀ request, (cut request).rows <+: (full request).rows)
    (hwell : ∀ o ∈ (run settings ranking full (store.disturb .ready [] []) direct).pairs,
      o.result.isOk = true) :
    let first := run settings ranking cut (store.disturb connection assetGuards candleGuards) now
    AgreeFrom store.candleRows.length CandleRow.withoutId
      (run settings ranking full (first.store.disturb .ready [] []) later).store.candleRows
      (run settings ranking full (store.disturb .ready [] []) direct).store.candleRows := by
  intro first
  set ps := pairs (listings settings.quoteAsset assets) settings.timeframes
  set disturbed := store.disturb connection assetGuards candleGuards
  have hsome : disturbed.candles.isSome = store.candles.isSome := Option.isSome_map
  have hfirst : first.store.candles.isSome = disturbed.candles.isSome := (isSome_run ha hr).2
  have hlimit : first.store.valueLimit = store.valueLimit := valueLimit_run ha hr
  have hfull : takenBatches full settings.candleLimit (first.store.disturb .ready [] []) ps =
      takenBatches full settings.candleLimit (store.disturb .ready [] []) ps := by
    simp only [takenBatches, accepted_disturb_congr (hfirst.trans hsome) hlimit]
  rw [candleRows_run ha rfl, candleRows_run ha rfl, hfull, Store.candleRows_disturb,
    Store.candleRows_disturb, show first.store.candleRows = _ from candleRows_run ha hr,
    Store.candleRows_disturb]
  exact agree_foldl_addTo
    (fun k row => find?_cut hcut fun pair hp => accepted_of_isOk_run ha rfl hwell hp)
    store.candleRows

/-- **A later run makes up for an earlier one** that was refused writes and got answers cut short:
the tables are those of a single run without failures. -/
theorem run_recovers {report : RunReport} {direct : Nat}
    (hcut : ∀ request, (cut request).rows <+: (full request).rows)
    (h : (run settings ranking cut (store.disturb connection assetGuards candleGuards)
      now).outcome = .ok report)
    (hwell : ∀ o ∈ (run settings ranking full (store.disturb .ready [] []) direct).pairs,
      o.result.isOk = true) (later : Nat) :
    let first := run settings ranking cut (store.disturb connection assetGuards candleGuards) now
    let second := run settings ranking full (first.store.disturb .ready [] []) later
    let single := run settings ranking full (store.disturb .ready [] []) direct
    ∃ report' total, second.outcome = .ok report' ∧ single.outcome = .ok total ∧
      AgreeFrom store.assetRows.length AssetRow.unstamped second.store.assetRows
        single.store.assetRows ∧
      AgreeFrom store.candleRows.length CandleRow.withoutId second.store.candleRows
        single.store.candleRows ∧
      report.candlesWritten + report'.candlesWritten = total.candlesWritten := by
  intro first second single
  obtain ⟨hr, assets, ha⟩ := ready_of_run_ok h
  have hcandles : AgreeFrom store.candleRows.length CandleRow.withoutId second.store.candleRows
      single.store.candleRows := agree_candles ha hr hcut hwell
  obtain rfl : _ = report := Except.ok.inj ((outcome_run ha hr).symm.trans h)
  refine ⟨_, _, outcome_run ha rfl, outcome_run ha rfl, agree_assets ha hr, hcandles, ?_⟩
  -- each run writes what its table grows by
  have h₁ : writtenBy first.pairs +
        (store.disturb connection assetGuards candleGuards).candleRows.length =
      first.store.candleRows.length := writtenBy_run ha hr
  have h₂ : writtenBy second.pairs + (first.store.disturb .ready [] []).candleRows.length =
      second.store.candleRows.length := writtenBy_run ha rfl
  have h₃ : writtenBy single.pairs + (store.disturb .ready [] []).candleRows.length =
      single.store.candleRows.length := writtenBy_run ha rfl
  rw [Store.candleRows_disturb] at h₁ h₂ h₃
  have hlen := hcandles.length_eq
  rw [candlesWritten_summary, candlesWritten_summary, candlesWritten_summary]
  change writtenBy first.pairs + writtenBy second.pairs = writtenBy single.pairs
  omega

end Runs

namespace SmallRun

/-- The answers cut short: one of them is missing, and the others lack all but two rows. -/
def cut : CandleSource := fun request =>
  { rows := (source request).rows.take (if request = ⟨"BTCUSDT", .oneDay, 200⟩ then 0 else 2) }

/-- The first of two runs: one listing and one pair fail, and one pair gets no answer. -/
def first : Run :=
  run settings ranking cut (store.disturb .ready [AssetPattern.guard ⟨.insert, "BTCUSDT"⟩]
    [CandlePattern.guard ⟨.insert, "ETHUSDT", some "1d", none⟩]) 0

/-- The second run. -/
def second : Run := run settings ranking source (first.store.disturb .ready [] []) 9

/-- The single run. -/
def single : Run := run settings ranking source (store.disturb .ready [] []) 3

end SmallRun

/-- Two of eight candles are written by the first run. -/
theorem run_recovers_small :
    SmallRun.first.outcome =
        .ok { assetsReconciled := 1, assetsFailed := 1, pairsAttempted := 4, pairsEmpty := 1
              pairsFailed := 1, candlesFetched := 4, candlesAttempted := 4, candlesWritten := 2 } ∧
      SmallRun.single.outcome =
        .ok { assetsReconciled := 2, pairsAttempted := 4, candlesFetched := 16
              candlesAttempted := 12, candlesWritten := 8 } ∧
      AgreeFrom 1 AssetRow.unstamped SmallRun.second.store.assetRows
        SmallRun.single.store.assetRows ∧
      AgreeFrom 0 CandleRow.withoutId SmallRun.second.store.candleRows
        SmallRun.single.store.candleRows := by
  have h : SmallRun.first.outcome =
      .ok { assetsReconciled := 1, assetsFailed := 1, pairsAttempted := 4, pairsEmpty := 1
            pairsFailed := 1, candlesFetched := 4, candlesAttempted := 4, candlesWritten := 2 } := by
    decide +kernel
  have hwell : ∀ o ∈ SmallRun.single.pairs, o.result.isOk = true := by decide +kernel
  obtain ⟨-, -, -, -, hassets, hcandles, -⟩ := run_recovers
    (fun request => List.take_prefix _ _) h hwell 9
  exact ⟨h, by decide +kernel, hassets, hcandles⟩

end CandleArchive
