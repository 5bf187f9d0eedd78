import CandleArchive.Proofs.Listings
import CandleArchive.Proofs.Run
import CandleArchive.Proofs.Timeframe

/-!
# Integrity — where the rows of a run come from

The tables have no reference to each other. What links them is the order of a run: a candle is
stored for a listing of the ranking, and the listing was to be registered before. So a row that a
run brings can be traced to the ranking or to an answer, and a candle is without its asset only
where it was so before, or where the registration failed.

* `Candle.Finite`, `Row.finite_of_candle?`, `Candle.Finite.stored`: the numbers of a candle;
* `CandleRow.Answers`, `answers_of_mem_run`: a new candle and its answer;
* `AssetRow.Registers`, `registers_of_mem_run`: a new asset and its entry of the ranking;
* **`mem_symbols_run`**: the symbols that are registered after a run;
* **`run_keeps_integrity`**: all rows of a run that ends well.
-/

namespace CandleArchive

open Number (Binary64)

/-! ## Numbers -/

/-- The prices and the volume are finite. -/
structure Candle.Finite (c : Candle) : Prop where
  openPrice : c.openPrice.isFinite = true
  highPrice : c.highPrice.isFinite = true
  lowPrice : c.lowPrice.isFinite = true
  closePrice : c.closePrice.isFinite = true
  volume : c.volume.isFinite = true

theorem isFinite_of_finite? {v : Json.Value} {x : Binary64} (h : finite? v = some x) :
    x.isFinite = true :=
  (Option.filter_eq_some_iff.mp h).2

theorem Row.finite_of_candle? {raw : Row} {c : Candle} (h : raw.candle? = some c) : c.Finite := by
  simp only [Row.candle?, Option.bind_eq_bind, Option.bind_eq_some_iff, Option.pure_def] at h
  obtain ⟨_, -, _, ⟨_, -, ho⟩, _, ⟨_, -, hh⟩, _, ⟨_, -, hl⟩, _, ⟨_, -, hc⟩, _, ⟨_, -, hv⟩, he⟩ := h
  cases he
  exact ⟨isFinite_of_finite? ho, isFinite_of_finite? hh, isFinite_of_finite? hl,
    isFinite_of_finite? hc, isFinite_of_finite? hv⟩

theorem isFinite_unsignedZero (x : Binary64) : x.unsignedZero.isFinite = x.isFinite := by
  rw [Binary64.unsignedZero]
  split_ifs with h
  · have hx : x.isFinite = true := by
      rw [Binary64.isFinite, h]
      decide
    rw [hx]
    decide
  · rfl

theorem Candle.Finite.stored {c : Candle} (h : c.Finite) : c.stored.Finite where
  openPrice := (isFinite_unsignedZero _).trans h.openPrice
  highPrice := (isFinite_unsignedZero _).trans h.highPrice
  lowPrice := (isFinite_unsignedZero _).trans h.lowPrice
  closePrice := (isFinite_unsignedZero _).trans h.closePrice
  volume := (isFinite_unsignedZero _).trans h.volume

/-! ## Where rows come from -/

/-- The candle is one of the answer to its own pair, which is of an entry of the ranking and of a
timeframe of the run. -/
structure CandleRow.Answers (row : CandleRow) (settings : RunSettings) (source : CandleSource)
    (assets : List MarketAsset) : Prop where
  symbol : ∃ asset ∈ assets, row.symbol = tradingSymbol asset.ticker settings.quoteAsset
  answer : ∃ t ∈ settings.timeframes, Timeframe.ofText? row.timeframe = .ok t ∧
    ∃ raw ∈ (source ⟨row.symbol, t, settings.candleLimit⟩).rows,
      ∃ c, raw.candle? = some c ∧ row.Holds c
  finite : row.candle.Finite
  stamp : row.createdAt = some row.candle.openTime

/-- The asset shows the best ranked entry of its symbol. -/
structure AssetRow.Registers (row : AssetRow) (quote : String) (assets : List MarketAsset) :
    Prop where
  marketType : row.marketType = "Spot"
  active : row.active = true
  entry : ∃ asset, assets.find? (fun a => tradingSymbol a.ticker quote = row.symbol) = some asset ∧
    row.name = asset.displayName ∧ row.imageUrl = some asset.image

theorem CandleRow.mem_or_of_mem_foldl_addTo {rows new : List CandleRow} {row : CandleRow}
    (h : row ∈ new.foldl addTo rows) : row ∈ rows ∨ ∃ r ∈ new, ∃ id, row = { r with id } := by
  rw [foldl_addTo, List.mem_append] at h
  refine h.imp_right fun hn => ?_
  obtain ⟨r, hr, id, rfl⟩ := eq_withId_of_mem_numbered hn
  exact ⟨r, mem_of_mem_firstPerKey hr, id, rfl⟩

theorem exists_of_mem_takenBatches {source : CandleSource} {limit : Nat} {store : Store}
    {ps : List (String × Timeframe)} {row : CandleRow}
    (h : row ∈ takenBatches source limit store ps) :
    ∃ pair ∈ ps, ∃ raw ∈ (source (pairRequest limit pair)).rows, ∃ c, raw.candle? = some c ∧
      row = .ofCandle pair.1 pair.2 c := by
  obtain ⟨pair, hp, hr⟩ := List.mem_flatMap.mp h
  obtain ⟨c, hc, rfl⟩ := List.mem_map.mp (Store.mem_of_mem_accepted hr)
  rw [candlesOf, List.mem_filterMap] at hc
  obtain ⟨raw, hraw, hc⟩ := hc
  exact ⟨pair, hp, raw, hraw, c, hc, rfl⟩

/-! ## Runs -/

section Run

variable {settings : RunSettings} {ranking : Ranking} {source : CandleSource} {store : Store}
  {now : Nat} {assets : List MarketAsset} {report : RunReport}

theorem answers_of_mem_run (ha : (ranking settings.topN).assets = .ok assets)
    (hr : store.connection = .ready) {row : CandleRow}
    (h : row ∈ (run settings ranking source store now).store.candleRows)
    (hnew : row ∉ store.candleRows) : row.Answers settings source assets := by
  rw [candleRows_run ha hr] at h
  obtain ⟨new, hn, id, rfl⟩ := (CandleRow.mem_or_of_mem_foldl_addTo h).resolve_left hnew
  obtain ⟨pair, hp, raw, hraw, c, hc, rfl⟩ := exists_of_mem_takenBatches hn
  obtain ⟨l, hl, hlt⟩ := List.mem_flatMap.mp hp
  obtain ⟨t, ht, rfl⟩ := List.mem_map.mp hlt
  obtain ⟨asset, hasset, rfl⟩ := exists_of_mem_listings hl
  exact {
    symbol := ⟨asset, List.mem_of_find?_eq_some hasset, rfl⟩
    answer := ⟨t, ht, t.ofText?_name, raw, hraw, c, hc, CandleRow.holds_ofCandle _ t c id⟩
    finite := (Row.finite_of_candle? hc).stored
    stamp := rfl }

theorem registers_of_mem_run (ha : (ranking settings.topN).assets = .ok assets)
    (hr : store.connection = .ready) {row : AssetRow}
    (h : row ∈ (run settings ranking source store now).store.assetRows)
    (hnew : row.symbol ∉ store.assetRows.map AssetRow.symbol) :
    row.Registers settings.quoteAsset assets := by
  have hd := (nodup_listings settings.quoteAsset assets).sublist
    ((List.filter_sublist (p := fun l => store.admits l)).map Listing.symbol)
  rw [assetRows_run ha hr, AssetRow.upsertAll_eq now hd, List.mem_append] at h
  rcases h with h | h
  · obtain ⟨old, ho, rfl⟩ := List.mem_map.mp h
    rw [AssetRow.symbol_refreshBy] at hnew
    exact absurd (List.mem_map_of_mem ho) hnew
  · obtain ⟨l, hl, id, rfl⟩ := AssetRow.mem_newRows h
    obtain ⟨asset, hasset, rfl⟩ :=
      exists_of_mem_listings (List.mem_filter.mp (List.mem_filter.mp hl).1).1
    exact ⟨rfl, rfl, asset, hasset, rfl, rfl⟩

/-- **The symbols that are registered after a run**: those from before, and the listings whose
registration did not fail. -/
theorem mem_symbols_run (ha : (ranking settings.topN).assets = .ok assets)
    (hr : store.connection = .ready) (s : String) :
    s ∈ (run settings ranking source store now).store.assetRows.map AssetRow.symbol ↔
      s ∈ store.assetRows.map AssetRow.symbol ∨
        s ∈ (listings settings.quoteAsset assets).map Listing.symbol ∧
          s ∉ (reconcile now store (listings settings.quoteAsset assets)).report.failed := by
  rw [assetRows_run ha hr, AssetRow.mem_map_symbol_upsertAll, or_comm]
  refine or_congr_right ?_
  constructor
  · intro h
    obtain ⟨l, hl, rfl⟩ := List.mem_map.mp h
    obtain ⟨hl, hadmits⟩ := List.mem_filter.mp hl
    refine ⟨List.mem_map_of_mem hl, ?_⟩
    rw [mem_failed_reconcile now store (nodup_listings _ _) hl, hadmits]
    decide
  · rintro ⟨h, hfail⟩
    obtain ⟨l, hl, rfl⟩ := List.mem_map.mp h
    rw [mem_failed_reconcile now store (nodup_listings _ _) hl, Bool.not_eq_false] at hfail
    exact List.mem_map_of_mem (List.mem_filter.mpr ⟨hl, hfail⟩)

/-- **A run keeps the rows of both tables traceable** to the ranking and to the answers. -/
theorem run_keeps_integrity (h : (run settings ranking source store now).outcome = .ok report) :
    let after := (run settings ranking source store now).store
    ∃ assets, (ranking settings.topN).assets = .ok assets ∧
      let ls := listings settings.quoteAsset assets
      (∀ row ∈ after.candleRows, row ∉ store.candleRows → row.Answers settings source assets) ∧
      (∀ row ∈ after.assetRows, row.symbol ∉ store.assetRows.map AssetRow.symbol →
        row.Registers settings.quoteAsset assets) ∧
      ∀ row ∈ after.candleRows, row.symbol ∉ after.assetRows.map AssetRow.symbol →
        row.symbol ∉ store.assetRows.map AssetRow.symbol ∧
          (row.symbol ∈ store.candleRows.map CandleRow.symbol ∨
            row.symbol ∈ ls.map Listing.symbol ∧
              row.symbol ∈ (reconcile now store ls).report.failed) := by
  intro after
  obtain ⟨hr, assets, ha⟩ := ready_of_run_ok h
  refine ⟨assets, ha, fun row hrow hnew => answers_of_mem_run ha hr hrow hnew,
    fun row hrow hnew => registers_of_mem_run ha hr hrow hnew, fun row hrow hno => ?_⟩
  rw [mem_symbols_run ha hr, not_or, not_and_not_right] at hno
  obtain ⟨hbefore, hfail⟩ := hno
  refine ⟨hbefore, ?_⟩
  by_cases hold : row ∈ store.candleRows
  · exact .inl (List.mem_map_of_mem hold)
  · right
    obtain ⟨asset, hasset, hs⟩ := (answers_of_mem_run ha hr hrow hold).symbol
    have hlisted : row.symbol ∈
        (listings settings.quoteAsset assets).map Listing.symbol := by
      rw [listings, firstPerSymbol_eq, mem_map_firstPerKey, List.map_map]
      exact ⟨List.mem_map.mpr ⟨asset, hasset, hs.symm⟩, List.not_mem_nil⟩
    exact ⟨hlisted, hfail hlisted⟩

/-- A candle that is new and without its asset: its listing could not be registered. -/
theorem run_keeps_integrity_small :
    let after := (run SmallRun.settings SmallRun.ranking SmallRun.source SmallRun.store 0).store
    (run SmallRun.settings SmallRun.ranking SmallRun.source SmallRun.store 0).outcome =
        .ok SmallRun.report ∧
      ∃ assets, (SmallRun.ranking SmallRun.settings.topN).assets = .ok assets ∧
        ∃ row ∈ after.candleRows, row.symbol ∉ after.assetRows.map AssetRow.symbol ∧
          row.candle = SmallRun.candle 60000 0x4059800000000000 ∧
          row.Answers SmallRun.settings SmallRun.source assets ∧
          row.symbol ∈ (reconcile 0 SmallRun.store
            (listings SmallRun.settings.quoteAsset assets)).report.failed := by
  intro after
  obtain ⟨assets, ha, hcandles, -, horphans⟩ := run_keeps_integrity SmallRun.ends_well
  obtain ⟨row, hrow, hno, hcandle⟩ :
      ∃ row ∈ after.candleRows, row.symbol ∉ after.assetRows.map AssetRow.symbol ∧
        row.candle = SmallRun.candle 60000 0x4059800000000000 := by
    decide +kernel
  have hbefore : SmallRun.store.candleRows = [] := by decide
  have hanswer := hcandles row hrow (by simp [hbefore])
  obtain ⟨-, hold | hfailed⟩ := horphans row hrow hno
  · simp [hbefore] at hold
  · exact ⟨SmallRun.ends_well, assets, ha, row, hrow, hno, hcandle, hanswer, hfailed.2⟩

end Run

end CandleArchive
