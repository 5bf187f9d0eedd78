import CandleArchive.Event
import CandleArchive.Store.Write

/-!
# The registry — registering the listings of a run

Every listing is upserted in a savepoint of its own, so one that fails does not touch the others.

* `registerListing`: one listing;
* `reconcile`: all of them, with the report and the lines that are logged.
-/

namespace CandleArchive

/-- The database after a listing is registered, or the error that left it as it was. -/
def registerListing (now : Int) (store : Store) (l : Listing) : Except ImportError Store :=
  match store.savepoint (Store.upsertAsset now l) with
  | .ok ((), after) => .ok after
  | .error e => .error (.registryWrite l.symbol e)

/-- The registration of several listings: what it counted, the database, and the lines. -/
structure Reconciliation where
  report : ReconcileReport
  store : Store
  lines : List LogLine

/-- The registration with one more listing. -/
def Reconciliation.add (now : Int) (r : Reconciliation) (l : Listing) : Reconciliation :=
  match registerListing now r.store l with
  | .ok store => { r with report.upserted := r.report.upserted + 1, store }
  | .error e =>
    { r with
      report.failed := r.report.failed ++ [l.symbol]
      lines := r.lines ++ [.failed e] }

/-- Registers the listings in order at the time `now`. -/
def reconcile (now : Int) (store : Store) (ls : List Listing) : Reconciliation :=
  let r := ls.foldl (Reconciliation.add now) { report := {}, store, lines := [] }
  { r with lines := r.lines ++ [.reconciled r.report.upserted r.report.failed.length] }

end CandleArchive
