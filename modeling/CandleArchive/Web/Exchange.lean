import CandleArchive.Web.Status
import CandleArchive.Web.Url

/-!
# Exchanges — a request and its answer

The network is a function from requests to answers. An address that is none never becomes a request.

* `Request`, `Answer`, `Transport`: what is sent, what comes back, and a network;
* `Transport.offline`: a network that carries nothing;
* `Fetch`, `fetch`: the outcome of asking for an address with form pairs.
-/

namespace CandleArchive.Web

/-- A request for the content of an address. -/
structure Request where
  url : Url
  userAgent : String
  deriving DecidableEq, Repr

/-- What comes back: a reason why the server could not be reached, or a response. A body is missing
when it breaks off. -/
inductive Answer where
  | unreachable (reason : String)
  | response (status : Nat) (body : Option (List UInt8))
  deriving DecidableEq, Repr

/-- A network. -/
abbrev Transport := Request → Answer

/-- Why a server cannot be reached that is given by its number. -/
def noRoute : String :=
  "error trying to connect: tcp connect error: Network is unreachable (os error 101)"

/-- Why a server cannot be reached that is given by its name. -/
def noSuchName : String :=
  "error trying to connect: dns error: failed to lookup address information: " ++
    "Temporary failure in name resolution"

/-- The server is given by its number, or it is the machine itself. -/
def isNumericServer (server : String) : Bool :=
  let name := server.toList.takeWhile (· != ':')
  name = "localhost".toList || name.head? = some '[' || name.all fun c => c.isDigit || c == '.'

/-- A network that carries nothing. -/
def Transport.offline : Transport := fun request =>
  .unreachable (if isNumericServer request.url.server then noRoute else noSuchName)

/-- The name under which requests are sent. -/
def userAgent : String := "price-importer/0.1.0"

/-- The answer to a request; the reason why the server could not be reached names the address. -/
def Answer.about (request : Request) : Answer → Answer
  | .unreachable reason =>
    .unreachable ("error sending request for url (" ++ request.url.text ++ "): " ++ reason)
  | .response status body => .response status body

/-- The outcome of asking: the request, if one was sent, and the answer. -/
structure Fetch where
  sent : Option Request
  answer : Answer

/-- Asks for the address that a text denotes, with form pairs in its query. -/
def fetch (parse : UrlParser) (transport : Transport) (address : String)
    (pairs : List (String × String)) : Fetch :=
  match parse address with
  | .error reason => { sent := none, answer := .unreachable ("builder error: " ++ reason) }
  | .ok url =>
    let request : Request := { url := url.withPairs pairs, userAgent }
    { sent := some request, answer := (transport request).about request }

end CandleArchive.Web
