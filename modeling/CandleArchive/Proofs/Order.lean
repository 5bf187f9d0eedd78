import CandleArchive.Proofs.Agreement
import CandleArchive.Proofs.Report
import Mathlib.Data.List.ProdSigma

/-!
# Order — neither the ranks nor the order of the timeframes matter

Listings of different symbols refresh and add different assets, and pairs add candles under different
keys. So a run over the same listings and the same timeframes in another order reports the same and
leaves the same rows.

* `perm_listings`, `perm_pairs`: what a run visits;
* `AssetRow.refreshBy_perm`, **`AssetRow.agree_upsertAll`**: listings in another order;
* `find?_takenBatches_perm`: pairs in another order;
* `expectedReport_perm`, **`run_order_irrelevant`**: reports and whole runs.
-/

namespace CandleArchive

/-! ## What a run visits -/

theorem listings_eq_map {quote : String} {assets : List MarketAsset}
    (hd : (assets.map fun a => tradingSymbol a.ticker quote).Nodup) :
    listings quote assets = assets.map (MarketAsset.listing quote) := by
  rw [listings, firstPerSymbol_eq]
  refine firstPerKey_eq_self ?_ fun _ _ => List.not_mem_nil
  rw [List.map_map]
  exact hd

theorem perm_listings {quote : String} {assets other : List MarketAsset} (h : assets.Perm other)
    (hd : (assets.map fun a => tradingSymbol a.ticker quote).Nodup) :
    (listings quote assets).Perm (listings quote other) := by
  rw [listings_eq_map hd, listings_eq_map ((h.map _).nodup_iff.mp hd)]
  exact h.map _

theorem perm_pairs {ls ls' : List Listing} {timeframes timeframes' : List Timeframe}
    (hl : ls.Perm ls') (ht : timeframes.Perm timeframes') :
    (pairs ls timeframes).Perm (pairs ls' timeframes') :=
  (hl.flatMap_right _).trans (List.Perm.flatMap_left _ fun _ _ => ht.map _)

/-! ## Assets -/

namespace AssetRow

variable {ls ls' : List Listing}

theorem refreshBy_perm (h : ls.Perm ls') (hd : (ls.map Listing.symbol).Nodup) (row : AssetRow) :
    row.refreshBy ls = row.refreshBy ls' := by
  have hd' : (ls'.map Listing.symbol).Nodup := (h.map _).nodup_iff.mp hd
  by_cases hr : row.symbol ∈ ls.map Listing.symbol
  · obtain ⟨l, hl, hs⟩ := List.mem_map.mp hr
    rw [refreshBy_of_mem hd hl hs, refreshBy_of_mem hd' (h.mem_iff.mp hl) hs]
  · have hr' : row.symbol ∉ ls'.map Listing.symbol := fun hm => hr ((h.map _).mem_iff.mpr hm)
    rw [refreshBy_of_notMem hr, refreshBy_of_notMem hr']

/-- **Upserts of different symbols in another order** refresh the stored rows alike and add the same
rows. -/
theorem agree_upsertAll (h : ls.Perm ls') (hd : (ls.map Listing.symbol).Nodup) (now later : Int)
    (rows : List AssetRow) :
    AgreeFrom rows.length unstamped (upsertAll now ls rows) (upsertAll later ls' rows) := by
  have hd' : (ls'.map Listing.symbol).Nodup := (h.map _).nodup_iff.mp hd
  have hold : rows.map (refreshBy ls) = rows.map (refreshBy ls') :=
    List.map_congr_left fun row _ => refreshBy_perm h hd row
  rw [upsertAll_eq now hd, upsertAll_eq later hd', hold]
  refine agreeFrom_append (List.length_map _) ?_
  rw [map_unstamped_newRows, map_unstamped_newRows]
  exact (h.filter _).map _

end AssetRow

/-! ## Candles -/

section Candles

variable {source : CandleSource} {limit : Nat} {store : Store} {ps ps' : List (String × Timeframe)}

theorem find?_takenBatches_perm (h : ps.Perm ps') (k : CandleKey) :
    (takenBatches source limit store ps).find? (·.key = k) =
      (takenBatches source limit store ps').find? (·.key = k) := by
  ext row
  simp only [find?_takenBatches_eq_some, h.mem_iff]

end Candles

/-! ## Runs -/

section Runs

variable {settings : RunSettings} {ranking ranking' : Ranking} {source : CandleSource} {store : Store}
  {now later : Nat} {assets assets' : List MarketAsset} {timeframes' : List Timeframe}

theorem expectedReport_perm {ls ls' : List Listing} (hl : ls.Perm ls')
    (ht : settings.timeframes.Perm timeframes') :
    expectedReport settings source ls store =
      expectedReport { settings with timeframes := timeframes' } source ls' store := by
  have hps : (pairs ls settings.timeframes).Perm (pairs ls' timeframes') := perm_pairs hl ht
  have hfirst : (firstPerKey CandleRow.key store.candleKeys
        (takenBatches source settings.candleLimit store (pairs ls settings.timeframes))).Perm
      (firstPerKey CandleRow.key store.candleKeys
        (takenBatches source settings.candleLimit store (pairs ls' timeframes'))) :=
    perm_firstPerKey (find?_takenBatches_perm hps)
  have hwritten := hfirst.length_eq
  simp only [expectedReport, hl.countP_eq, hps.countP_eq, hl.length_eq, ht.length_eq, hwritten,
    ((hps.filter _).map _).sum_eq]

section Ranked

variable (ha : (ranking settings.topN).assets = .ok assets)
  (ha' : (ranking' settings.topN).assets = .ok assets') (hassets : assets.Perm assets')
  (hd : (assets.map fun a => tradingSymbol a.ticker settings.quoteAsset).Nodup)
include ha ha' hassets hd

theorem agree_assetRows_run (hr : store.connection = .ready) :
    AgreeFrom store.assetRows.length AssetRow.unstamped
      (run settings ranking source store now).store.assetRows
      (run { settings with timeframes := timeframes' } ranking' source store
        later).store.assetRows := by
  have hl : (listings settings.quoteAsset assets).Perm (listings settings.quoteAsset assets') :=
    perm_listings hassets hd
  have hadmitted : (((listings settings.quoteAsset assets).filter fun l =>
      store.admits l).map Listing.symbol).Nodup :=
    (nodup_listings _ _).sublist (List.filter_sublist.map _)
  have hother : (run { settings with timeframes := timeframes' } ranking' source store
      later).store.assetRows = _ := assetRows_run ha' hr
  rw [assetRows_run ha hr, hother]
  exact AssetRow.agree_upsertAll (hl.filter _) hadmitted now later store.assetRows

theorem agree_candleRows_run (htimeframes : settings.timeframes.Perm timeframes')
    (hr : store.connection = .ready) :
    AgreeFrom store.candleRows.length CandleRow.withoutId
      (run settings ranking source store now).store.candleRows
      (run { settings with timeframes := timeframes' } ranking' source store
        later).store.candleRows := by
  have hps : (pairs (listings settings.quoteAsset assets) settings.timeframes).Perm
      (pairs (listings settings.quoteAsset assets') timeframes') :=
    perm_pairs (perm_listings hassets hd) htimeframes
  have hother : (run { settings with timeframes := timeframes' } ranking' source store
      later).store.candleRows = _ := candleRows_run ha' hr
  rw [candleRows_run ha hr, hother]
  exact agree_foldl_addTo_of_find? (find?_takenBatches_perm hps) store.candleRows

end Ranked

/-- **The order of the assets and of the timeframes is irrelevant**: the reports are the same, and
the tables agree up to the surrogate keys and the stamps of what is new. -/
theorem run_order_irrelevant (ha : (ranking settings.topN).assets = .ok assets)
    (ha' : (ranking' settings.topN).assets = .ok assets') (hassets : assets.Perm assets')
    (hd : (assets.map fun a => tradingSymbol a.ticker settings.quoteAsset).Nodup)
    (htimeframes : settings.timeframes.Perm timeframes') :
    let one := run settings ranking source store now
    let other := run { settings with timeframes := timeframes' } ranking' source store later
    one.outcome = other.outcome ∧
      AgreeFrom store.assetRows.length AssetRow.unstamped one.store.assetRows
        other.store.assetRows ∧
      AgreeFrom store.candleRows.length CandleRow.withoutId one.store.candleRows
        other.store.candleRows := by
  intro one other
  by_cases hr : store.connection = .ready
  · have hl := perm_listings hassets hd
    have hone : one.outcome = .ok (expectedReport settings source _ store) := report_run ha hr
    have hother : other.outcome = .ok (expectedReport _ source _ store) := report_run ha' hr
    have houtcome : one.outcome = other.outcome := by
      rw [hone, hother, expectedReport_perm hl htimeframes]
    exact ⟨houtcome, agree_assetRows_run ha ha' hassets hd hr,
      agree_candleRows_run ha ha' hassets hd htimeframes hr⟩
  · have hone : one.outcome = _ := outcome_run_of_not_ready ha hr
    have hother : other.outcome = _ := outcome_run_of_not_ready ha' hr
    rw [show one.store = store from store_run_of_error hone,
      show other.store = store from store_run_of_error hother]
    exact ⟨hone.trans hother.symm, .refl _ _ _, .refl _ _ _⟩

end Runs

namespace SmallRun

/-- Two assets under different tickers. -/
def ranked : Ranking := fun _ =>
  { assets := .ok [⟨"btc", "Bitcoin", "b.png"⟩, ⟨"eth", "Ether", ""⟩] }

/-- The two assets in the other order. -/
def swapped : Ranking := fun _ =>
  { assets := .ok [⟨"eth", "Ether", ""⟩, ⟨"btc", "Bitcoin", "b.png"⟩] }

/-- The first of two runs. -/
def one : Run := run settings ranked source store 0

/-- The second run has both orders turned round, and one listing and one pair fail in it too. -/
def other : Run := run { settings with timeframes := [.oneDay, .oneHour] } swapped source store 9

end SmallRun

theorem run_order_irrelevant_small :
    SmallRun.one.outcome = .ok SmallRun.report ∧ SmallRun.other.outcome = .ok SmallRun.report ∧
      AgreeFrom 1 AssetRow.unstamped SmallRun.one.store.assetRows SmallRun.other.store.assetRows ∧
      AgreeFrom 0 CandleRow.withoutId SmallRun.one.store.candleRows
        SmallRun.other.store.candleRows := by
  have h : SmallRun.one.outcome = .ok SmallRun.report := by decide +kernel
  obtain ⟨houtcome, hassets, hcandles⟩ : SmallRun.one.outcome = SmallRun.other.outcome ∧ _ ∧ _ :=
    run_order_irrelevant rfl rfl (.swap _ _ _) (by decide +kernel) (.swap _ _ _)
  exact ⟨h, houtcome.symm.trans h, hassets, hcandles⟩

end CandleArchive
