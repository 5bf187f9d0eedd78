import CandleArchive.Store.Error
import CandleArchive.Timeframe
import CandleArchive.Web.Status

/-!
# Import errors — what can go wrong in a run

A failed upsert or candle write is counted and the run goes on; a missing ranking or a database that
does not take the run as a whole ends it.

* `SourceFailure`: why the ranking could not be had;
* `ImportError`: the errors of a run;
* `ImportError.message`, `ImportError.causes`, `ImportError.chain`: the wording, what lies behind,
  and both in one line.
-/

namespace CandleArchive

/-- Why the ranking could not be had. -/
inductive SourceFailure where
  | noAnswer (url detail : String)
  | badStatus (url : String) (status : Nat)
  | badBody (url detail : String)
  | other (reason : String)
  deriving DecidableEq, Repr

/-- The wording of the failure. -/
def SourceFailure.message : SourceFailure → String
  | noAnswer url detail => "request to " ++ url ++ " failed: " ++ detail
  | badStatus url status => url ++ " answered " ++ Web.statusText status
  | badBody url detail => "invalid response from " ++ url ++ ": " ++ detail
  | other reason => reason

/-- What can go wrong in a run. -/
inductive ImportError where
  | sourceUnavailable (failure : SourceFailure)
  | registryWrite (symbol : String) (error : StorageError)
  | candleWrite (symbol : String) (timeframe : Timeframe) (error : StorageError)
  | httpClient (reason : String)
  | database (error : StorageError)
  deriving DecidableEq, Repr

namespace ImportError

/-- The wording of the error. -/
def message : ImportError → String
  | sourceUnavailable failure => "market universe source unavailable: " ++ failure.message
  | registryWrite symbol _ => "failed to write registry entry for " ++ symbol
  | candleWrite symbol timeframe _ =>
    "failed to write " ++ timeframe.name ++ " candles for " ++ symbol
  | httpClient _ => "failed to build HTTP client"
  | database error => error.message

/-- The wordings of what lies behind the error, the nearest first. -/
def causes : ImportError → List String
  | sourceUnavailable _ => []
  | registryWrite _ error => error.message :: error.cause?.toList
  | candleWrite _ _ error => error.message :: error.cause?.toList
  | httpClient reason => ["builder error: " ++ reason, reason]
  | database error => error.cause?.toList

/-- The error and what lies behind it, in one line. -/
def chain (e : ImportError) : String :=
  ": ".intercalate (e.message :: e.causes)

end ImportError

end CandleArchive
