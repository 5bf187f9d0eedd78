import CandleArchive.Candle
import CandleArchive.Store.Error
import CandleArchive.Store.Schema

/-!
# The store — assets, candles and the connection to them

The archive keeps its assets and candles in two tables of a database. A table may be missing, the
connection may be closed, a table may have guards that refuse some writes, and a statement may bind
more values than the database takes; each makes a statement fail, and a statement that fails changes
nothing.

* `AssetRow`, `CandleRow`, `CandleKey`: the rows and the key of a candle;
* `Guard`, `AssetPattern.guard`, `CandlePattern.guard`: rules under which the database refuses a row;
* `Table`, `Connection`, `Store`: the two tables and how they can be reached;
* `Store.batchLimit`, `Store.prepare`: how many candles one statement takes;
* `Store.startTransaction`, `Store.commit`, `Store.savepoint`: work that is kept as a whole or not
  at all.
-/

namespace CandleArchive

open Number (Binary64)

/-- A registered asset. The stamps are milliseconds. -/
structure AssetRow where
  id : Nat
  symbol : String
  name : String
  marketType : String
  imageUrl : Option String
  active : Bool
  createdAt : Option Int
  updatedAt : Option Int
  deriving DecidableEq, Repr

/-- What makes a candle unique. -/
structure CandleKey where
  symbol : String
  timeframe : String
  openTime : Int
  deriving DecidableEq, Repr

/-- A stored candle. -/
structure CandleRow where
  id : Nat
  symbol : String
  timeframe : String
  candle : Candle
  createdAt : Option Int
  deriving DecidableEq, Repr

/-- The key of a stored candle. -/
def CandleRow.key (row : CandleRow) : CandleKey := ⟨row.symbol, row.timeframe, row.candle.openTime⟩

/-- What a statement is about to do with a row. -/
inductive WriteKind where
  | insert
  | update
  deriving DecidableEq, Repr

/-- A rule under which the database refuses writes to a table: it looks at the row that is to be
inserted, or at the stored row and the one that is to replace it. -/
structure Guard (ρ : Type) where
  insert : ρ → Bool
  update : ρ → ρ → Bool

/-- The writes of assets of a symbol. -/
structure AssetPattern where
  on : WriteKind
  symbol : String
  deriving DecidableEq, Repr

/-- The writes of candles of a symbol, or only those among them that have the given timeframe and
open price. -/
structure CandlePattern where
  on : WriteKind
  symbol : String
  timeframe : Option String
  openPrice : Option Binary64
  deriving DecidableEq, Repr

/-- The guard against the writes of the pattern. -/
def AssetPattern.guard (p : AssetPattern) : Guard AssetRow where
  insert row := p.on = .insert ∧ p.symbol = row.symbol
  update _ row := p.on = .update ∧ p.symbol = row.symbol

/-- The pattern has a candle like the row. -/
def CandlePattern.covers (p : CandlePattern) (row : CandleRow) : Bool :=
  p.symbol = row.symbol ∧ p.timeframe.all (· = row.timeframe) ∧
    p.openPrice.all (·.unsignedZero = row.candle.openPrice)

/-- The guard against the writes of the pattern. -/
def CandlePattern.guard (p : CandlePattern) : Guard CandleRow where
  insert row := p.on = .insert ∧ p.covers row
  update _ row := p.on = .update ∧ p.covers row

/-- A table: its shape, its rows in the order of insertion, and its guards. -/
structure Table (ρ κ : Type) where
  schema : Schema
  rows : List ρ
  guards : List κ

/-- The table of assets. -/
abbrev AssetTable := Table AssetRow (Guard AssetRow)

/-- The table of candles. -/
abbrev CandleTable := Table CandleRow (Guard CandleRow)

/-- The state of the connection. -/
inductive Connection where
  /-- Statements are carried out. -/
  | ready
  /-- Statements are carried out, but nothing can be committed. -/
  | uncommitting
  /-- Nothing is carried out. -/
  | closed
  deriving DecidableEq, Repr

/-- A step in the development of the database. -/
inductive Migration where
  | createAssets
  | createCandles
  deriving DecidableEq, Repr

/-- The database: the migrations it has gone through, its tables and the connection to it. One
statement can bind at most `valueLimit` values. -/
structure Store where
  connection : Connection
  applied : List Migration
  assets : Option AssetTable
  candles : Option CandleTable
  valueLimit : Nat := 32766

/-- How many values a candle binds: those of all columns but the surrogate key. -/
def CandleRow.width : Nat := 9

namespace Store

/-- A database without tables. -/
def fresh : Store := { connection := .ready, applied := [], assets := none, candles := none }

/-- The store with its connection closed. -/
def close (store : Store) : Store := { store with connection := .closed }

/-- The connection carries out statements. -/
def reach (store : Store) : Except StorageError Unit :=
  if store.connection = .closed then .error (.connection "the connection is closed") else .ok ()

/-- How many candles one statement takes. -/
def batchLimit (store : Store) : Nat := store.valueLimit / CandleRow.width

/-- A statement with so many candles is prepared. -/
def prepare (count : Nat) (store : Store) : Except StorageError Unit := do
  store.reach
  if store.batchLimit < count then throw (.execution "too many SQL variables")

/-- A transaction or a savepoint is opened. -/
def startTransaction (store : Store) : Except StorageError Unit := store.reach

/-- A transaction or a savepoint is committed. -/
def commit (store : Store) : Except StorageError Unit :=
  if store.connection = .ready then .ok ()
  else .error (.connection "the transaction cannot be committed")

/-- The result of the work, and the store that it leaves, once committed. -/
def savepoint {α : Type} (store : Store) (work : Store → Except StorageError (α × Store)) :
    Except StorageError (α × Store) := do
  store.startTransaction
  let (a, after) ← work store
  after.commit
  return (a, after)

/-- The table of assets, if it can be reached. -/
def assetTable (store : Store) : Except StorageError AssetTable := do
  store.reach
  match store.assets with
  | some table => return table
  | none => throw (.execution "no such table: cryptocurrencies")

/-- The table of candles, if it can be reached. -/
def candleTable (store : Store) : Except StorageError CandleTable := do
  store.reach
  match store.candles with
  | some table => return table
  | none => throw (.execution "no such table: price_history")

end Store

end CandleArchive
