import CandleArchive.Store.Migration
import CandleArchive.Store.Write

/-!
# Columns — the rows by the names of their columns

A write looks for a stored row by its symbol, or by its key; the database does so by the columns that
the write names, which are those of a unique index. Here both are the same.

* `Cell`, `AssetRow.cells`, `CandleRow.cells`: the values of a row under the names of their columns;
* `Migration.conflictTarget`: the columns that a write names;
* **`AssetRow.values_eq_iff`**, **`CandleRow.values_eq_iff`**: rows with the same values there.
-/

namespace CandleArchive

open Number (Binary64)

/-- A value in a column. -/
inductive Cell where
  | null
  | integer (n : Int)
  | real (x : Binary64)
  | text (s : String)
  | truth (b : Bool)
  deriving DecidableEq

/-- The columns by which a write finds a stored row in the table of the migration. -/
def Migration.conflictTarget : Migration → List String
  | createAssets => ["symbol"]
  | createCandles => ["symbol", "timeframe", "timestamp"]

/-- The values in the columns of the given names. -/
def valuesAt (columns : List String) (cells : List (String × Cell)) : List (Option Cell) :=
  columns.map fun column => cells.lookup column

/-- The values of the row. -/
def AssetRow.cells (row : AssetRow) : List (String × Cell) :=
  [("id", .integer row.id), ("symbol", .text row.symbol), ("name", .text row.name),
   ("market_type", .text row.marketType), ("image_url", row.imageUrl.elim .null .text),
   ("active", .truth row.active), ("created_at", row.createdAt.elim .null .integer),
   ("updated_at", row.updatedAt.elim .null .integer)]

/-- The values of the row. -/
def CandleRow.cells (row : CandleRow) : List (String × Cell) :=
  [("id", .integer row.id), ("symbol", .text row.symbol), ("timeframe", .text row.timeframe),
   ("open_price", .real row.candle.openPrice), ("high_price", .real row.candle.highPrice),
   ("low_price", .real row.candle.lowPrice), ("close_price", .real row.candle.closePrice),
   ("volume", .real row.candle.volume), ("timestamp", .integer row.candle.openTime),
   ("created_at", row.createdAt.elim .null .integer)]

theorem AssetRow.map_fst_cells (row : AssetRow) :
    row.cells.map Prod.fst = Schema.assets.columns.map Column.name := rfl

theorem CandleRow.map_fst_cells (row : CandleRow) :
    row.cells.map Prod.fst = Schema.candles.columns.map Column.name := rfl

theorem CandleRow.length_cells (row : CandleRow) : row.cells.length = CandleRow.width + 1 := rfl

theorem AssetRow.valuesAt_cells (row : AssetRow) :
    valuesAt Migration.createAssets.conflictTarget row.cells = [some (.text row.symbol)] := rfl

theorem CandleRow.valuesAt_cells (row : CandleRow) :
    valuesAt Migration.createCandles.conflictTarget row.cells =
      [some (.text row.symbol), some (.text row.timeframe), some (.integer row.candle.openTime)] :=
  rfl

theorem AssetRow.values_eq_iff {a b : AssetRow} :
    valuesAt Migration.createAssets.conflictTarget a.cells =
      valuesAt Migration.createAssets.conflictTarget b.cells ↔ a.symbol = b.symbol := by
  simp [AssetRow.valuesAt_cells]

/-- **Candles conflict** where their keys are the same. -/
theorem CandleRow.values_eq_iff {a b : CandleRow} :
    valuesAt Migration.createCandles.conflictTarget a.cells =
      valuesAt Migration.createCandles.conflictTarget b.cells ↔ a.key = b.key := by
  simp [CandleRow.valuesAt_cells, CandleRow.key]

end CandleArchive
