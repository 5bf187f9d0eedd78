import CandleArchive.Error
import CandleArchive.Report
import CandleArchive.Web.Exchange

/-!
# Events — what can be seen of an import from outside

A run shows itself by the candles that it asks for, the requests that it sends and the lines that it
logs, in this order of time.

* `CandleRequest`: what a candle source is asked;
* `LogLine`, `LogLine.level`, `LogLine.source`, `LogLine.text`: the lines, with their weight and the
  part of the program that they come from;
* `Event`: a step that can be seen.
-/

namespace CandleArchive

/-- What a candle source is asked: the latest candles of a pair, up to a number. -/
structure CandleRequest where
  symbol : String
  timeframe : Timeframe
  limit : Nat
  deriving DecidableEq, Repr

/-- The weight of a line. -/
inductive Level where
  | error
  | warn
  | info
  | debug
  deriving DecidableEq, Repr

/-- The name of the weight. -/
def Level.name : Level → String
  | error => "ERROR"
  | warn => "WARN"
  | info => "INFO"
  | debug => "DEBUG"

/-- A line of the log. -/
inductive LogLine where
  | connecting (url : String)
  | fetchingRanking (count : Nat) (url : String)
  | fetchedRanking (count : Nat)
  | importing (assets timeframes : Nat)
  | reconciled (upserted refused : Nat)
  | importingPair (symbol : String) (timeframe : Timeframe)
  | klinesFailed (symbol : String) (timeframe : Timeframe) (detail : String)
  | klinesAnswered (symbol : String) (timeframe : Timeframe) (status : Nat)
  | klinesInvalid (symbol : String) (timeframe : Timeframe) (detail : String)
  | noCandles (symbol : String) (timeframe : Timeframe)
  | rejected (count : Nat) (symbol : String) (timeframe : Timeframe)
  | stored (symbol : String) (timeframe : Timeframe) (counts : ImportCounts)
  | failed (error : ImportError)
  | emptyPairs (count : Nat)
  | completed (report : RunReport)
  | finished (written assets : Nat)
  deriving DecidableEq, Repr

namespace LogLine

/-- The weight of the line. -/
def level : LogLine → Level
  | failed _ => .error
  | klinesFailed .. | klinesAnswered .. | klinesInvalid .. | rejected .. | emptyPairs _ => .warn
  | fetchingRanking .. | noCandles .. | stored .. => .debug
  | connecting _ | fetchedRanking _ | importing .. | reconciled .. | importingPair ..
  | completed _ | finished .. => .info

/-- The part of the program that the line comes from. -/
def source : LogLine → String
  | connecting _ => "shared::database"
  | fetchingRanking .. | fetchedRanking _ => "importer::sources::coingecko"
  | klinesFailed .. | klinesAnswered .. | klinesInvalid .. => "importer::sources::binance"
  | failed (.registryWrite ..) | reconciled .. => "importer::services::registry"
  | noCandles .. | rejected .. | stored .. => "importer::services::candle_importer"
  | failed _ | importing .. | importingPair .. | emptyPairs _ | completed _ => "importer::driver"
  | finished .. => "importer"

/-- The text of the line. -/
def text : LogLine → String
  | connecting url => s!"Connecting to database via Sea-ORM at: {url}"
  | fetchingRanking count url => s!"Fetching top {count} assets from {url}"
  | fetchedRanking count => s!"Fetched {count} assets from market ranking"
  | importing assets timeframes => s!"Importing {assets} assets x {timeframes} timeframes"
  | reconciled upserted refused => s!"Reconciled {upserted} assets ({refused} failed)"
  | importingPair symbol timeframe => s!"Importing candles for {symbol} - {timeframe.name}"
  | klinesFailed symbol timeframe detail =>
    s!"Kline request for {symbol} {timeframe.name} failed: {detail}"
  | klinesAnswered symbol timeframe status =>
    s!"Kline request for {symbol} {timeframe.name} answered {Web.statusText status}"
  | klinesInvalid symbol timeframe detail =>
    s!"Invalid kline response for {symbol} {timeframe.name}: {detail}"
  | noCandles symbol timeframe => s!"No candles for {symbol} {timeframe.name}"
  | rejected count symbol timeframe =>
    s!"Rejected {count} malformed candles for {symbol} {timeframe.name}"
  | stored symbol timeframe counts =>
    s!"{symbol} {timeframe.name}: fetched {counts.fetched}, written {counts.written}, " ++
      s!"already stored {counts.duplicates}"
  | failed error => error.chain
  | emptyPairs count => s!"{count} symbol/timeframe pairs returned no candles"
  | completed r =>
    s!"Import completed assets={r.assetsReconciled} assets_failed={r.assetsFailed} " ++
      s!"pairs={r.pairsAttempted} pairs_empty={r.pairsEmpty} pairs_failed={r.pairsFailed} " ++
      s!"candles_written={r.candlesWritten} candles_skipped={r.candlesSkipped}"
  | finished written assets => s!"Import finished: {written} candles written for {assets} assets"

end LogLine

/-- A step that can be seen. -/
inductive Event where
  /-- A candle source is asked at the time `start`. -/
  | asked (request : CandleRequest) (start : Nat)
  /-- A request is sent. -/
  | sent (request : Web.Request)
  /-- A line is logged. -/
  | logged (line : LogLine)
  deriving DecidableEq, Repr

end CandleArchive
