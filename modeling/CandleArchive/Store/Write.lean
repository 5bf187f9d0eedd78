import CandleArchive.Asset
import CandleArchive.Store.Basic
import CandleArchive.Timeframe

/-!
# Writes — what statements do to the tables

An asset is registered by an upsert on its symbol, which refreshes its name, its image and its
activity and keeps every other column. Candles are inserted in one statement that binds the values of
all rows and skips each row whose key is stored. A guard on inserts refuses the statement even where a
row would be updated or skipped; a guard on updates refuses it only where a stored row changes.

* `AssetRow.ofListing`, `CandleRow.ofCandle`: the rows that are written;
* `AssetRow.unstamped`: what guards see of a new asset;
* `AssetTable.upsert`, `CandleTable.insertNew`: the statements on a table;
* `Store.upsertAsset`, `Store.insertCandles`: the statements on the database;
* `AssetDraft`, `Store.insertAsset`, `Store.insertCandle`: plain inserts, which refuse stored keys.
-/

namespace CandleArchive

open Number (Binary64)

/-- The market of every asset that is registered. -/
def spotMarket : String := "Spot"

/-- The row that registers a listing at the time `now`, under the key `id`. -/
def AssetRow.ofListing (now : Int) (id : Nat) (l : Listing) : AssetRow where
  id := id
  symbol := l.symbol
  name := l.name
  marketType := spotMarket
  imageUrl := some l.imageUrl
  active := true
  createdAt := some now
  updatedAt := some now

/-- The row with what an upsert of the listing refreshes. -/
def AssetRow.refresh (l : Listing) (row : AssetRow) : AssetRow :=
  { row with name := l.name, imageUrl := some l.imageUrl, active := true }

/-- The row without its key and stamps, which is what guards see of a row that is new. -/
def AssetRow.unstamped (row : AssetRow) : AssetRow :=
  { row with id := 0, createdAt := none, updatedAt := none }

/-- The candle as the database stores it: a zero loses its sign. -/
def Candle.stored (c : Candle) : Candle where
  openTime := c.openTime
  openPrice := c.openPrice.unsignedZero
  highPrice := c.highPrice.unsignedZero
  lowPrice := c.lowPrice.unsignedZero
  closePrice := c.closePrice.unsignedZero
  volume := c.volume.unsignedZero

/-- The row of a candle of a pair; it is stamped with its open time. -/
def CandleRow.ofCandle (symbol : String) (timeframe : Timeframe) (c : Candle) : CandleRow where
  id := 0
  symbol := symbol
  timeframe := timeframe.name
  candle := c.stored
  createdAt := some c.openTime

/-- The rows refreshed by the listing, if they hold its symbol, else with a new row for it. -/
def AssetRow.upsertInto (now : Int) (l : Listing) (rows : List AssetRow) : List AssetRow :=
  if rows.any (·.symbol = l.symbol) then
    rows.map fun row => if row.symbol = l.symbol then row.refresh l else row
  else rows ++ [.ofListing now (rows.length + 1) l]

/-- The rows with a new one under the next key, unless a row with its key is stored. -/
def CandleRow.addTo (rows : List CandleRow) (new : CandleRow) : List CandleRow :=
  if rows.any (·.key = new.key) then rows else rows ++ [{ new with id := rows.length + 1 }]

/-- The refusal of a guard. -/
def guardRefusal : StorageError := .execution "the row is refused"

/-- The refusal of a unique index. -/
def duplicateRefusal : StorageError := .execution "the key is stored already"

/-- Registers a listing or refreshes its row. -/
def AssetTable.upsert (now : Int) (l : Listing) (table : AssetTable) :
    Except StorageError AssetTable :=
  let inserting := table.guards.any (·.insert (AssetRow.ofListing now 0 l).unstamped)
  let updating := table.rows.any fun row =>
    row.symbol = l.symbol ∧ table.guards.any (·.update row (row.refresh l))
  if inserting ∨ updating then .error guardRefusal
  else .ok { table with rows := AssetRow.upsertInto now l table.rows }

/-- Inserts the rows whose key is not stored, in order, and counts them. -/
def CandleTable.insertNew (new : List CandleRow) (table : CandleTable) :
    Except StorageError (Nat × CandleTable) :=
  if new.any fun row => table.guards.any (·.insert row) then .error guardRefusal
  else
    let rows := new.foldl CandleRow.addTo table.rows
    .ok (rows.length - table.rows.length, { table with rows })

namespace Store

/-- Registers a listing in the database. -/
def upsertAsset (now : Int) (l : Listing) (store : Store) : Except StorageError (Unit × Store) := do
  let table ← store.assetTable
  return ((), { store with assets := some (← AssetTable.upsert now l table) })

/-- Inserts the candles of a pair that are not stored, and counts them. -/
def insertCandles (new : List CandleRow) (store : Store) : Except StorageError (Nat × Store) := do
  store.prepare new.length
  let table ← store.candleTable
  let (count, table) ← CandleTable.insertNew new table
  return (count, { store with candles := some table })

end Store

/-- The values for a new asset; where none is given, the column has a default. -/
structure AssetDraft where
  symbol : Option String
  name : Option String
  marketType : Option String
  imageUrl : Option String
  active : Option Bool
  createdAt : Option (Option Int)
  updatedAt : Option (Option Int)

/-- The row of a draft at the time `now`, under the key `id`; the symbol and the name have no
default. -/
def AssetDraft.row? (now : Int) (id : Nat) (draft : AssetDraft) : Option AssetRow := do
  return {
    id
    symbol := ← draft.symbol
    name := ← draft.name
    marketType := draft.marketType.getD spotMarket
    imageUrl := draft.imageUrl
    active := draft.active.getD true
    createdAt := draft.createdAt.getD (some now)
    updatedAt := draft.updatedAt.getD (some now) }

namespace Store

/-- Inserts an asset whose symbol is not stored. -/
def insertAsset (now : Int) (draft : AssetDraft) (store : Store) : Except StorageError Store := do
  let table ← store.assetTable
  match draft.row? now (table.rows.length + 1) with
  | none => throw (.execution "a value is missing")
  | some row =>
    if table.guards.any (·.insert row.unstamped) then throw guardRefusal
    if table.rows.any (·.symbol = row.symbol) then throw duplicateRefusal
    return { store with assets := some { table with rows := table.rows ++ [row] } }

/-- Inserts a candle whose key is not stored. -/
def insertCandle (new : CandleRow) (store : Store) : Except StorageError Store := do
  let table ← store.candleTable
  if table.guards.any (·.insert new) then throw guardRefusal
  if table.rows.any (·.key = new.key) then throw duplicateRefusal
  return { store with candles := some { table with rows := CandleRow.addTo table.rows new } }

/-- Puts a guard against the pattern on the table of assets. -/
def guardAssets (p : AssetPattern) (store : Store) : Except StorageError Store := do
  let table ← store.assetTable
  return { store with assets := some { table with guards := table.guards ++ [p.guard] } }

/-- Puts a guard against the pattern on the table of candles. -/
def guardCandles (p : CandlePattern) (store : Store) : Except StorageError Store := do
  let table ← store.candleTable
  return { store with candles := some { table with guards := table.guards ++ [p.guard] } }

end Store

end CandleArchive
