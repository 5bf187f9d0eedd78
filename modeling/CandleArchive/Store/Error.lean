/-!
# Storage errors — why the database refused

* `StorageError`: the kinds of refusal;
* `StorageError.message`, `StorageError.cause?`: the wording, and the wording of what lies behind.
-/

namespace CandleArchive

/-- Why the database refused. -/
inductive StorageError where
  | connection (reason : String)
  | execution (reason : String)
  | query (reason : String)
  | custom (reason : String)
  | recordNotFound (reason : String)
  | attributeNotSet (column : String)
  | type (reason : String)
  | json (reason : String)
  | migration (reason : String)
  | recordNotInserted
  | recordNotUpdated
  deriving DecidableEq, Repr

namespace StorageError

/-- The wording of the error. -/
def message : StorageError → String
  | connection reason => "Connection Error: " ++ reason
  | execution reason => "Execution Error: " ++ reason
  | query reason => "Query Error: " ++ reason
  | custom reason => "Custom Error: " ++ reason
  | recordNotFound reason => "RecordNotFound Error: " ++ reason
  | attributeNotSet column => "Attribute " ++ column ++ " is NotSet"
  | type reason => "Type Error: " ++ reason
  | json reason => "Json Error: " ++ reason
  | migration reason => "Migration Error: " ++ reason
  | recordNotInserted => "None of the records are inserted"
  | recordNotUpdated => "None of the records are updated"

/-- The wording of the cause, for the errors that have one. -/
def cause? : StorageError → Option String
  | connection reason | execution reason | query reason => some reason
  | _ => none

end StorageError

end CandleArchive
