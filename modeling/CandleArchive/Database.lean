import CandleArchive.Store.Error
import CandleArchive.Web.Url

/-!
# Database addresses — connecting without showing credentials

The address of a database may hold a user and a password before an at sign. The log shows three
asterisks in their place.

* `splitScheme?`, `afterLast?`: the parts of an address;
* `redact`: the address without credentials;
* `scheme?`, `connect`: the scheme of an address, and the refusal of a text that is no address or
  has no driver.
-/

namespace CandleArchive.Database

/-- What stands before and after the first `://`. -/
def splitScheme? : List Char → Option (List Char × List Char)
  | [] => none
  | ':' :: '/' :: '/' :: cs => some ([], cs)
  | c :: cs => (splitScheme? cs).map fun (before, after) => (c :: before, after)

/-- What stands after the last `x`. -/
def afterLast? (x : Char) : List Char → Option (List Char)
  | [] => none
  | c :: cs =>
    match afterLast? x cs with
    | some rest => some rest
    | none => if c = x then some cs else none

/-- The address with asterisks for what stands between the scheme and the last at sign. -/
def redactChars (url : List Char) : List Char :=
  match splitScheme? url with
  | none => url
  | some (scheme, rest) =>
    match afterLast? '@' rest with
    | none => url
    | some server => scheme ++ "://***@".toList ++ server

/-- The address without credentials. -/
def redact (url : String) : String := String.ofList (redactChars url.toList)

/-- The schemes of the databases that can be reached. -/
def drivers : List String := ["postgres", "postgresql", "sqlite"]

/-- A character that the name of a database server may not hold. -/
def isBadServerChar (c : Char) : Bool := c == '\x00' || " #/:<>?@[\\]^|".toList.contains c

/-- The part between the scheme and the path names a server, or none at all where neither a user nor
a number is given. -/
def isAuthority (cs : List Char) : Bool :=
  let host := (cs.reverse.takeWhile (· != '@')).reverse
  let (name, rest) := Web.splitServer host
  (name ≠ [] || cs = []) && !(Web.bareName name).any isBadServerChar &&
    (Web.serverNumber? (rest.drop 1)).isSome

/-- The scheme of the address that a text denotes. What follows two slashes after the scheme names a
server, up to the path. -/
def scheme? (url : String) : Option String :=
  match Web.splitSchemeName? (Web.addressChars url) with
  | none => none
  | some (scheme, '/' :: '/' :: cs) =>
    if isAuthority (cs.takeWhile fun c => c != '/' && c != '?' && c != '#') then some scheme
    else none
  | some (scheme, _) => some scheme

/-- Why an address cannot be connected to. -/
def refusal (url reason : String) : StorageError :=
  .connection ("The connection string '" ++ url ++ "' " ++ reason)

/-- Finds a driver for the address. -/
def connect (url : String) : Except StorageError Unit :=
  match scheme? url with
  | none => .error (refusal url "cannot be parsed.")
  | some scheme =>
    if scheme ∈ drivers then .ok () else .error (refusal url "has no supporting driver.")

end CandleArchive.Database
