/-!
# Reports — the counts of an import

* `ImportCounts`, `ImportCounts.total`: the import of one pair of a symbol and a timeframe, and of
  several;
* `ReconcileReport`: the registration of the listings;
* `RunReport`: a whole run.
-/

namespace CandleArchive

/-- The counts of one pair: rows that came, rows that are candles, and rows that were new. -/
structure ImportCounts where
  fetched : Nat := 0
  attempted : Nat := 0
  written : Nat := 0
  deriving DecidableEq, Repr

/-- The candles that were stored already. -/
def ImportCounts.duplicates (c : ImportCounts) : Nat := c.attempted - c.written

/-- The rows that are no candles. -/
def ImportCounts.rejected (c : ImportCounts) : Nat := c.fetched - c.attempted

/-- The counts of two imports together. -/
def ImportCounts.add (c d : ImportCounts) : ImportCounts where
  fetched := c.fetched + d.fetched
  attempted := c.attempted + d.attempted
  written := c.written + d.written

/-- The counts of several imports together. -/
def ImportCounts.total (counts : List ImportCounts) : ImportCounts := counts.foldr .add {}

/-- How many listings were registered, and the symbols of the others in order. -/
structure ReconcileReport where
  upserted : Nat := 0
  failed : List String := []
  deriving DecidableEq, Repr

/-- The counts of a run. Candles are counted over the pairs that did not fail. -/
structure RunReport where
  assetsReconciled : Nat := 0
  assetsFailed : Nat := 0
  pairsAttempted : Nat := 0
  pairsEmpty : Nat := 0
  pairsFailed : Nat := 0
  candlesFetched : Nat := 0
  candlesAttempted : Nat := 0
  candlesWritten : Nat := 0
  deriving DecidableEq, Repr

/-- The candles that were stored already. -/
def RunReport.candlesSkipped (r : RunReport) : Nat := r.candlesAttempted - r.candlesWritten

end CandleArchive
