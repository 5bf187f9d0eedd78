import CandleArchive.Config
import CandleArchive.History
import CandleArchive.Market.Ranking
import CandleArchive.Registry

/-!
# Runs — ranking, registry and candles in one transaction

A run asks for the ranking, registers its listings and imports the candles of every pair of a
listing and a timeframe. Listings and pairs that fail are counted; only a missing ranking or a
transaction that cannot be opened or committed ends the run with an error, and then nothing is
written.

* `pairs`: the pairs of a run in order;
* `PairOutcome`, `RunReport.summary`: what became of the pairs, and their counts;
* `RunState`, `RunState.importNext`, `importPairs`: the pairs one after another;
* `Run`, `run`: a whole run.
-/

namespace CandleArchive

/-- The pairs of a run: for each listing every timeframe. -/
def pairs (ls : List Listing) (timeframes : List Timeframe) : List (String × Timeframe) :=
  ls.flatMap fun l => timeframes.map fun t => (l.symbol, t)

/-- What became of a pair. -/
structure PairOutcome where
  symbol : String
  timeframe : Timeframe
  result : Except ImportError ImportCounts

/-- The report on registered listings and imported pairs. -/
def RunReport.summary (registered : ReconcileReport) (outcomes : List PairOutcome) : RunReport :=
  let counts := outcomes.filterMap (·.result.toOption)
  let total := ImportCounts.total counts
  { assetsReconciled := registered.upserted
    assetsFailed := registered.failed.length
    pairsAttempted := outcomes.length
    pairsEmpty := counts.countP (·.fetched = 0)
    pairsFailed := outcomes.length - counts.length
    candlesFetched := total.fetched
    candlesAttempted := total.attempted
    candlesWritten := total.written }

/-- The line that a failed pair leaves. -/
def PairOutcome.lines (o : PairOutcome) : List LogLine :=
  match o.result with
  | .ok _ => []
  | .error e => [.failed e]

/-- How far a run has come: the pairs that are done, the database, the gate, the clock, and the
events. -/
structure RunState where
  outcomes : List PairOutcome
  store : Store
  gate : Gate
  clock : Nat
  events : List Event

/-- Imports one more pair, of at most `limit` candles. -/
def RunState.importNext (source : CandleSource) (limit : Nat) (s : RunState)
    (pair : String × Timeframe) : RunState :=
  let (symbol, timeframe) := pair
  let importer : Importer := { source, limit, gate := s.gate }
  let step := importer.importPair symbol timeframe s.store s.clock
  let outcome : PairOutcome := { symbol, timeframe, result := step.outcome }
  { outcomes := s.outcomes ++ [outcome]
    store := step.store
    gate := step.gate
    clock := step.clock
    events := s.events ++ .logged (.importingPair symbol timeframe) :: step.events ++
      outcome.lines.map .logged }

/-- Imports the pairs in order. -/
def importPairs (source : CandleSource) (limit : Nat) (s : RunState)
    (ps : List (String × Timeframe)) : RunState :=
  ps.foldl (RunState.importNext source limit) s

/-- The lines at the end of a run. -/
def closingLines (report : RunReport) : List LogLine :=
  (if 0 < report.pairsEmpty then [.emptyPairs report.pairsEmpty] else []) ++ [.completed report]

/-- A run: its outcome, what became of the pairs, the database after it, the clock, and the
events. -/
structure Run where
  outcome : Except ImportError RunReport
  pairs : List PairOutcome := []
  store : Store
  clock : Nat
  events : List Event

/-- The pairs of registered listings imported into the database, from the time `now` on. -/
def importListings (settings : RunSettings) (source : CandleSource) (ls : List Listing)
    (store : Store) (now : Nat) : RunState :=
  importPairs source settings.candleLimit
    { outcomes := [], store, gate := { pause := settings.rateDelay }, clock := now, events := [] }
    (pairs ls settings.timeframes)

/-- A run from the time `now` on. -/
def run (settings : RunSettings) (ranking : Ranking) (source : CandleSource) (store : Store)
    (now : Nat) : Run :=
  let reply := ranking settings.topN
  match reply.assets with
  | .error failure =>
    { outcome := .error (.sourceUnavailable failure), store, clock := now, events := reply.events }
  | .ok assets =>
    let ls := listings settings.quoteAsset assets
    let opening := reply.events ++ [.logged (.importing ls.length settings.timeframes.length)]
    match store.startTransaction with
    | .error e => { outcome := .error (.database e), store, clock := now, events := opening }
    | .ok () =>
      let registered := reconcile now store ls
      let done := importListings settings source ls registered.store now
      let events := opening ++ registered.lines.map .logged ++ done.events
      match done.store.commit with
      | .error e =>
        { outcome := .error (.database e), pairs := done.outcomes, store, clock := done.clock
          events }
      | .ok () =>
        let report := RunReport.summary registered.report done.outcomes
        { outcome := .ok report, pairs := done.outcomes, store := done.store, clock := done.clock
          events := events ++ (closingLines report).map .logged }

end CandleArchive
