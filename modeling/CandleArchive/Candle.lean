import CandleArchive.Json.Value
import CandleArchive.Number.Decimal
import CandleArchive.Text.Blank

/-!
# Candles — from a provider's row to six numbers

A provider sends a candle as a row: the open time in milliseconds, four prices and the volume, each
as a number or as a text, and then anything. A row that lacks one of the six is left out.

* `Row`, `Candle`: a row as it was sent, and its six numbers;
* `openTime?`, `finite?`: one element of a row;
* `Row.candle?`: the candle of a row, or nothing;
* `rows?`: the rows that an answer consists of.
-/

namespace CandleArchive

open Json (Value Tree)
open Number (Binary64)

/-- A candle as the provider sends it. -/
abbrev Row := List Value

/-- A candle: its open time in milliseconds, its prices and its volume. -/
structure Candle where
  openTime : Int
  openPrice : Binary64
  highPrice : Binary64
  lowPrice : Binary64
  closePrice : Binary64
  volume : Binary64
  deriving DecidableEq, Repr

/-- The first and the last millisecond of the calendar. -/
def calendarRange : Int × Int := (-8334601228800000, 8210266876799999)

/-- The 64-bit integer that an element of a row denotes. -/
def millis? : Value → Option Int
  | .integer n => if n ≤ (Number.maxInt64 : Int) then some n else none
  | .text s => Number.int64? (Text.trim s)
  | _ => none

/-- The open time that an element denotes, if the calendar has it. -/
def openTime? (v : Value) : Option Int :=
  (millis? v).filter fun n => calendarRange.1 ≤ n ∧ n ≤ calendarRange.2

/-- The number nearest to an integer. -/
def binary64OfInt (n : Int) : Binary64 := .ofRatio (n < 0) n.natAbs 1

/-- The number that an element of a row denotes. -/
def number? : Value → Option Binary64
  | .integer n => some (binary64OfInt n)
  | .real x => some x
  | .text s => Number.binary64? (Text.trim s)
  | _ => none

/-- The finite number that an element denotes. -/
def finite? (v : Value) : Option Binary64 :=
  (number? v).filter Binary64.isFinite

/-- The candle that a row denotes by its first six elements. -/
def Row.candle? (row : Row) : Option Candle := do
  let openTime ← row[0]? >>= openTime?
  let openPrice ← row[1]? >>= finite?
  let highPrice ← row[2]? >>= finite?
  let lowPrice ← row[3]? >>= finite?
  let closePrice ← row[4]? >>= finite?
  let volume ← row[5]? >>= finite?
  return { openTime, openPrice, highPrice, lowPrice, closePrice, volume }

/-- The row that a tree inside an answer consists of. -/
def row? : Tree → Option Row
  | .list items => items.mapM (Tree.value? (Json.maxDepth - 2))
  | _ => none

/-- The rows that the bytes of an answer consist of. -/
def rows? (bs : List UInt8) : Option (List Row) :=
  match Json.tree? bs with
  | some (.list items) => items.mapM row?
  | _ => none

end CandleArchive
