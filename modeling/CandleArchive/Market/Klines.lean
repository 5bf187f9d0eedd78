import CandleArchive.History

/-!
# Klines — candles from the exchange

The exchange serves the latest candles of a symbol at an interval, at least one and at most a
thousand. Whatever goes wrong is logged and shows as an answer without rows.

* `klinePairs`: the form pairs of a request;
* `readKlines`: the rows of an answer, and the line that is logged;
* `CandleSource.behind`, `CandleSource.ofWeb`: the exchange behind a base address.
-/

namespace CandleArchive

/-- The most candles that the exchange serves. -/
def maxKlines : Nat := 1000

/-- The number of candles that the exchange is asked for. -/
def klineLimit (limit : Nat) : Nat := max 1 (min limit maxKlines)

/-- The form pairs that ask for candles. -/
def klinePairs (request : CandleRequest) : List (String × String) :=
  [("symbol", request.symbol), ("interval", request.timeframe.name),
   ("limit", toString (klineLimit request.limit))]

/-- The rows of an answer, and the line that is logged when there is something wrong with it. -/
def readKlines (request : CandleRequest) : Web.Answer → List Row × List LogLine
  | .unreachable detail => ([], [.klinesFailed request.symbol request.timeframe detail])
  | .response status body =>
    if ¬ Web.isSuccess status then ([], [.klinesAnswered request.symbol request.timeframe status])
    else
      match body.bind rows? with
      | none =>
        ([], [.klinesInvalid request.symbol request.timeframe "error decoding response body"])
      | some rows => (rows, [])

/-- The exchange behind a base address, for a reader of addresses. -/
def CandleSource.behind (parse : Web.UrlParser) (transport : Web.Transport) (base : String) :
    CandleSource := fun request =>
  let fetch := Web.fetch parse transport (Web.joinPath base "/api/v3/klines") (klinePairs request)
  let (rows, lines) := readKlines request fetch.answer
  { rows, events := fetch.sent.toList.map .sent ++ lines.map .logged }

/-- The exchange behind a base address. -/
def CandleSource.ofWeb (transport : Web.Transport) (base : String) : CandleSource :=
  behind Web.Url.parse transport base

end CandleArchive
