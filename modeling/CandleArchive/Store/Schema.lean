/-!
# Schemas — the columns and indexes of the tables

Assets are unique by symbol, and candles by symbol, timeframe and open time. Both keys are unique
indexes, which the writes of the archive rely on when a row is already stored.

* `Column`, `Index`, `Schema`: the shape of a table;
* `Schema.assets`, `Schema.candles`: the two tables when they are created, without indexes;
* `Index.assetSymbol`, `Index.candlePair`, `Index.candleKey`: the indexes;
* `Schema.addIndex`: an index is added once.
-/

namespace CandleArchive

/-- A column of a table. -/
structure Column where
  name : String
  notNull : Bool := true
  primaryKey : Bool := false
  deriving DecidableEq, Repr

/-- An index over some columns of a table. -/
structure Index where
  name : String
  unique : Bool
  columns : List String
  deriving DecidableEq, Repr

/-- The shape of a table. -/
structure Schema where
  columns : List Column
  indexes : List Index
  deriving DecidableEq, Repr

/-- The column of the surrogate key. -/
def Column.id : Column := { name := "id", notNull := false, primaryKey := true }

/-- A column that must have a value. -/
def Column.required (name : String) : Column := { name }

/-- A column that may be null. -/
def Column.optional (name : String) : Column := { name, notNull := false }

/-- A symbol is registered once. -/
def Index.assetSymbol : Index :=
  { name := "idx_cryptocurrencies_symbol", unique := true, columns := ["symbol"] }

/-- The candles of a pair are found by symbol and timeframe. -/
def Index.candlePair : Index :=
  { name := "idx_symbol_timeframe", unique := false, columns := ["symbol", "timeframe"] }

/-- A candle of a pair is stored once. -/
def Index.candleKey : Index :=
  { name := "idx_unique_price", unique := true, columns := ["symbol", "timeframe", "timestamp"] }

namespace Schema

/-- The table of assets without its index. -/
def assets : Schema where
  columns :=
    [.id, .required "symbol", .required "name", .required "market_type", .optional "image_url",
     .required "active", .optional "created_at", .optional "updated_at"]
  indexes := []

/-- The table of candles without its indexes. -/
def candles : Schema where
  columns :=
    [.id, .required "symbol", .required "timeframe", .required "open_price",
     .required "high_price", .required "low_price", .required "close_price", .required "volume",
     .required "timestamp", .optional "created_at"]
  indexes := []

/-- The schema with the index, unless it has one of that name. -/
def addIndex (schema : Schema) (index : Index) : Schema :=
  if schema.indexes.any (·.name == index.name) then schema
  else { schema with indexes := schema.indexes ++ [index] }

end Schema

end CandleArchive
