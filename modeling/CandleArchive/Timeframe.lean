import CandleArchive.Text.Blank
import CandleArchive.Text.Quoted

/-!
# Timeframes — the intervals of candles

A candle covers one of six intervals, which have the names that the exchange uses.

* `Timeframe`, `Timeframe.all`, `Timeframe.name`;
* `Timeframe.ofText?`: the interval that a text names, blanks around the name aside;
* `UnsupportedTimeframe`: the error that quotes any other text.
-/

namespace CandleArchive

/-- The interval of a candle. -/
inductive Timeframe where
  | oneMinute
  | fiveMinutes
  | fifteenMinutes
  | oneHour
  | fourHours
  | oneDay
  deriving DecidableEq, Repr

/-- A text that names no interval. -/
structure UnsupportedTimeframe where
  text : String
  deriving DecidableEq, Repr

/-- The wording of the error. -/
def UnsupportedTimeframe.message (e : UnsupportedTimeframe) : String :=
  "unsupported timeframe: " ++ Text.quoted e.text

namespace Timeframe

/-- All intervals, from the shortest to the longest. -/
def all : List Timeframe :=
  [oneMinute, fiveMinutes, fifteenMinutes, oneHour, fourHours, oneDay]

/-- The name of the interval. -/
def name : Timeframe → String
  | oneMinute => "1m"
  | fiveMinutes => "5m"
  | fifteenMinutes => "15m"
  | oneHour => "1h"
  | fourHours => "4h"
  | oneDay => "1d"

/-- The interval that the text names. -/
def ofText? (s : String) : Except UnsupportedTimeframe Timeframe :=
  match all.find? (·.name == Text.trim s) with
  | some timeframe => .ok timeframe
  | none => .error ⟨s⟩

end Timeframe

end CandleArchive
