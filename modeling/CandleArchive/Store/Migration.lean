import CandleArchive.Store.Basic

/-!
# Migrations — how the tables come and go

The database is developed in two steps, each of which creates a table with its indexes and can be
taken back by dropping it. A table that is there is not created again, but one that is missing cannot
be dropped. The database remembers which steps it has gone through.

* `Migration.all`, `Migration.name`: the steps in order;
* `Migration.up`, `Migration.down`: one step and its reverse;
* `MigrationCommand`, `Store.migrate`: the commands on the whole list of steps;
* `Store.pending`: the steps that are left.
-/

namespace CandleArchive

namespace Migration

/-- All steps in order. -/
def all : List Migration := [createAssets, createCandles]

/-- The name of the step. -/
def name : Migration → String
  | createAssets => "m20250101_000001_create_cryptocurrencies"
  | createCandles => "m20250101_000002_create_price_history"

/-- The table, or an empty one of the given shape. -/
def createTable {ρ κ : Type} (schema : Schema) (table : Option (Table ρ κ)) : Table ρ κ :=
  table.getD { schema, rows := [], guards := [] }

/-- The table with an index. -/
def createIndex {ρ κ : Type} (index : Index) (table : Table ρ κ) : Table ρ κ :=
  { table with schema := table.schema.addIndex index }

/-- The database after the step. -/
def up (store : Store) : Migration → Store
  | createAssets =>
    { store with
      assets := some (createIndex .assetSymbol (createTable .assets store.assets))
      applied := store.applied ++ [createAssets] }
  | createCandles =>
    { store with
      candles := some (createIndex .candleKey
        (createIndex .candlePair (createTable .candles store.candles)))
      applied := store.applied ++ [createCandles] }

/-- What is left of the table of the given name once it is dropped. -/
def dropTable {ρ κ : Type} (name : String) :
    Option (Table ρ κ) → Except StorageError (Option (Table ρ κ))
  | some _ => .ok none
  | none => .error (.execution ("no such table: " ++ name))

/-- The database after the step is taken back. -/
def down (store : Store) : Migration → Except StorageError Store
  | createAssets => do
    let assets ← dropTable "cryptocurrencies" store.assets
    return { store with assets, applied := store.applied.filter (· ≠ createAssets) }
  | createCandles => do
    let candles ← dropTable "price_history" store.candles
    return { store with candles, applied := store.applied.filter (· ≠ createCandles) }

end Migration

/-- A command on the list of steps; without a count it means all of them. -/
inductive MigrationCommand where
  | up (count : Option Nat)
  | down (count : Option Nat)
  | refresh
  | reset
  deriving DecidableEq, Repr

namespace Store

/-- The steps that the database has not gone through. -/
def pending (store : Store) : List Migration :=
  Migration.all.filter (· ∉ store.applied)

/-- The first `count` of the steps, or all of them. -/
def firstSteps (count : Option Nat) (steps : List Migration) : List Migration :=
  match count with
  | some n => steps.take n
  | none => steps

/-- Goes through pending steps in order. -/
def migrateUp (count : Option Nat) (store : Store) : Store :=
  (firstSteps count store.pending).foldl Migration.up store

/-- Takes back applied steps, the last one first. -/
def migrateDown (count : Option Nat) (store : Store) : Except StorageError Store :=
  (firstSteps count store.applied.reverse).foldlM Migration.down store

/-- The database after the command, whatever the state of the connection. -/
def develop (store : Store) : MigrationCommand → Except StorageError Store
  | .up count => .ok (store.migrateUp count)
  | .down count => store.migrateDown count
  | .refresh => (store.migrateDown none).map (migrateUp none)
  | .reset => store.migrateDown none

/-- Carries out the command. -/
def migrate (command : MigrationCommand) (store : Store) : Except StorageError Store := do
  store.reach
  store.develop command

/-- A database that has gone through all steps. -/
def migrated : Store := fresh.migrateUp none

end Store

end CandleArchive
