import CandleArchive.Event
import CandleArchive.Pacing
import CandleArchive.Store.Write

/-!
# History — importing the candles of a pair

The candles of a pair of a symbol and a timeframe are asked for behind a gate. The rows of the
answer that are candles are inserted in one savepoint; those whose key is stored are skipped, so
stored candles never change.

* `CandleReply`, `CandleSource`: the answer of a source, and a source;
* `PairImport`, `importRows`: what the rows of an answer do to the database;
* `Importer`, `Importer.importPair`: a source behind a gate.
-/

namespace CandleArchive

/-- The answer of a source: its rows, how long it took, and what was seen meanwhile. -/
structure CandleReply where
  rows : List Row
  latency : Nat := 0
  events : List Event := []

/-- A provider of candles. A failure shows as an answer without rows. -/
abbrev CandleSource := CandleRequest → CandleReply

/-- The candles among the rows of an answer. -/
def candlesOf (rows : List Row) : List Candle := rows.filterMap Row.candle?

/-- The import of the rows of an answer: its outcome, the database, and the lines. -/
structure PairImport where
  outcome : Except ImportError ImportCounts
  store : Store
  lines : List LogLine

/-- Inserts the candles among the rows of the pair. -/
def importRows (symbol : String) (timeframe : Timeframe) (rows : List Row) (store : Store) :
    PairImport :=
  if rows = [] then
    { outcome := .ok {}, store, lines := [.noCandles symbol timeframe] }
  else
    let new := (candlesOf rows).map (CandleRow.ofCandle symbol timeframe)
    let counts : ImportCounts := { fetched := rows.length, attempted := new.length }
    let warnings : List LogLine :=
      if 0 < counts.rejected then [.rejected counts.rejected symbol timeframe] else []
    if new = [] then { outcome := .ok counts, store, lines := warnings }
    else
      match store.savepoint (Store.insertCandles new) with
      | .ok (written, after) =>
        let counts := { counts with written }
        { outcome := .ok counts, store := after
          lines := warnings ++ [.stored symbol timeframe counts] }
      | .error e =>
        { outcome := .error (.candleWrite symbol timeframe e), store, lines := warnings }

/-- A source of candles behind a gate, and how many candles it is asked for. -/
structure Importer where
  source : CandleSource
  limit : Nat
  gate : Gate

/-- The import of a pair through a gate: the rows' import, the gate, the clock, and the events. -/
structure PairStep where
  outcome : Except ImportError ImportCounts
  store : Store
  gate : Gate
  clock : Nat
  events : List Event

/-- Asks for the candles of a pair and inserts them, from the time `now` on. -/
def Importer.importPair (importer : Importer) (symbol : String) (timeframe : Timeframe)
    (store : Store) (now : Nat) : PairStep :=
  let request : CandleRequest := ⟨symbol, timeframe, importer.limit⟩
  let start := importer.gate.acquire now
  let reply := importer.source request
  let clock := start + reply.latency
  let done := importRows symbol timeframe reply.rows store
  { outcome := done.outcome
    store := done.store
    gate := importer.gate.release clock
    clock
    events := .asked request start :: reply.events ++ done.lines.map .logged }

end CandleArchive
