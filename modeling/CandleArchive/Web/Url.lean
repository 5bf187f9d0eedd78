import CandleArchive.Number.Integer
import CandleArchive.Web.Form

/-!
# URLs — what a request asks which server for

An address starts with the scheme of the web, then names a server and a path, and may carry a query
and a fragment; the fragment is not sent. Characters that may not stand in a path, a query or a
fragment are written as percent signs with hexadecimal digits, and the path segments `.` and `..`
are followed.

* `Url`, `UrlError`: a server, a path, a query and a fragment, and why a text is no address;
* `Url.ofText?`: the address that a text denotes;
* `UrlParser`, `Url.parse`: a reader of addresses, and the one that is used;
* `Url.withPairs`, `Url.target`, `Url.text`: form pairs added to the query, what is asked of the
  server, and the address as a text.
-/

namespace CandleArchive.Web

/-- An address of the web. -/
structure Url where
  scheme : String
  server : String
  path : List Char
  query : Option (List Char)
  fragment : Option (List Char)
  deriving DecidableEq, Repr

/-- Why a text is no address of the web. -/
inductive UrlError where
  | relative
  | unknownScheme
  | emptyServer
  | badServerName
  | badServerNumber
  deriving DecidableEq, Repr

/-- The wording of the error. -/
def UrlError.message : UrlError → String
  | relative => "relative URL without a base"
  | unknownScheme => "URL scheme is not allowed"
  | emptyServer => "empty host"
  | badServerName => "invalid domain character"
  | badServerNumber => "invalid port number"

/-- A character, in percent form when it is a control, not ASCII, or one of `reserved`. -/
def escapeIn (reserved : List Char) (c : Char) : List Char :=
  if c.toNat < 0x20 ∨ 0x7E < c.toNat ∨ c ∈ reserved then
    (String.utf8EncodeChar c).flatMap Form.percentByte
  else [c]

/-- The characters that a path may not hold. -/
def pathReserved : List Char := [' ', '"', '<', '>', '`', '#', '?', '\x7b', '\x7d']

/-- The characters that a query may not hold. -/
def queryReserved : List Char := [' ', '"', '#', '<', '>', '\x27']

/-- The characters that a fragment may not hold. -/
def fragmentReserved : List Char := [' ', '"', '<', '>', '`']

/-- A slash of either kind. -/
def isSlash (c : Char) : Bool := c == '/' || c == '\\'

/-- The texts between the slashes. -/
def segments (cs : List Char) : List (List Char) := cs.splitOnP isSlash

/-- A segment that stays where it is. -/
def isDot (segment : List Char) : Bool :=
  [".", "%2e"].contains (String.ofList (segment.map Char.toLower))

/-- A segment that leads one segment back. -/
def isDotDot (segment : List Char) : Bool :=
  ["..", ".%2e", "%2e.", "%2e%2e"].contains (String.ofList (segment.map Char.toLower))

/-- A segment that names a drive: a letter and a mark. -/
def isDrive : List Char → Bool
  | [letter, mark] => letter.isAlpha && (mark == ':' || mark == '|')
  | _ => false

/-- The segments `done` in reverse, one segment back. A drive is never left. -/
def back : List (List Char) → List (List Char)
  | [] => []
  | segment :: done => if isDrive segment then segment :: done else done

/-- Follows the segments after the segments `done` in reverse. A dot at the end leaves an empty
segment. -/
def follow (done : List (List Char)) : List (List Char) → List (List Char)
  | [] => done.reverse
  | segment :: rest =>
    if isDotDot segment then follow (if rest = [] then [] :: back done else back done) rest
    else if isDot segment then follow (if rest = [] then [] :: done else done) rest
    else follow (segment.flatMap (escapeIn pathReserved) :: done) rest

/-- The path that the characters after the server denote. -/
def pathOf (cs : List Char) : List Char :=
  match segments cs with
  | [] => ['/']
  | _ :: rest => if rest = [] then ['/'] else (follow [] rest).flatMap ('/' :: ·)

/-- The number of a server that stands after the colon behind its name, if one is written. -/
def serverNumber? : List Char → Option (Option Nat)
  | [] => some none
  | cs => (Number.digitsWithin 65535 0 cs).toOption.map some

/-- The number that servers of a scheme have unless another is written. -/
def usualNumber (scheme : String) : Nat := if scheme = "https" then 443 else 80

/-- A character that the name of a server may hold: no control, no blank and no mark that
delimits. -/
def isServerChar (c : Char) : Bool :=
  0x20 < c.toNat && c.toNat ≠ 0x7F && !"#/<>?@[\\]^|%:".toList.contains c

/-- The name of a server in the part between the scheme and the path, and what follows it. A name in
brackets is an address with colons. -/
def splitServer (cs : List Char) : List Char × List Char :=
  match cs with
  | '[' :: _ =>
    let (inside, rest) := cs.span (· != ']')
    (inside ++ rest.take 1, rest.drop 1)
  | _ => cs.span (· != ':')

/-- The characters of a name that are to be checked, without brackets and the colons inside. -/
def bareName : List Char → List Char
  | '[' :: cs => (cs.takeWhile (· != ']')).filter (· != ':')
  | cs => cs

/-- The server that the part between the scheme and the path names, without user and password and
without the usual number. -/
def serverOf? (scheme : String) (cs : List Char) : Except UrlError String :=
  let (name, rest) := splitServer (cs.reverse.takeWhile (· != '@')).reverse
  if name = [] then .error .emptyServer
  else if ¬ (bareName name).all isServerChar then .error .badServerName
  else
    let name := String.ofList (name.map Char.toLower)
    match serverNumber? (rest.drop 1) with
    | none => .error .badServerNumber
    | some none => .ok name
    | some (some n) =>
      .ok (if n = usualNumber scheme then name else name ++ ":" ++ toString n)

/-- A character that is dropped from the ends of an address. -/
def isOuter (c : Char) : Bool := c.toNat ≤ 0x20

/-- The characters of an address without padding and line breaks. -/
def addressChars (s : String) : List Char :=
  let cs := ((s.toList.dropWhile isOuter).reverse.dropWhile isOuter).reverse
  cs.filter fun c => c != '\t' && c != '\n' && c != '\r'

/-- The characters form the name of a scheme. -/
def isSchemeName : List Char → Bool
  | [] => false
  | c :: cs => c.isAlpha && cs.all fun c => c.isAlphanum || c == '+' || c == '-' || c == '.'

/-- The scheme in lower case that characters start with, and what follows the colon behind it. -/
def splitSchemeName? (cs : List Char) : Option (String × List Char) :=
  match cs.span (· != ':') with
  | (name, ':' :: rest) =>
    if isSchemeName name then some (String.ofList (name.map Char.toLower), rest) else none
  | _ => none

/-- The query that characters start with, if they do, and what follows it. -/
def splitQuery : List Char → Option (List Char) × List Char
  | '?' :: cs =>
    let (query, rest) := cs.span (· != '#')
    (some (query.flatMap (escapeIn queryReserved)), rest)
  | cs => (none, cs)

/-- The fragment that the characters are, if they are one. -/
def fragmentOf : List Char → Option (List Char)
  | '#' :: cs => some (cs.flatMap (escapeIn fragmentReserved))
  | _ => none

/-- A reader of addresses: the address that a text denotes, or the wording of why it denotes none. -/
abbrev UrlParser := String → Except String Url

namespace Url

/-- The address that a text denotes. -/
def ofText? (s : String) : Except UrlError Url :=
  match splitSchemeName? (addressChars s) with
  | none => .error .relative
  | some (scheme, rest) =>
    if scheme ∉ ["http", "https"] then .error .unknownScheme
    else
      let (authority, rest) :=
        (rest.dropWhile isSlash).span fun c => !isSlash c && c != '?' && c != '#'
      let (path, rest) := rest.span fun c => c != '?' && c != '#'
      let (query, rest) := splitQuery rest
      (serverOf? scheme authority).map fun server =>
        { scheme, server, path := pathOf path, query, fragment := fragmentOf rest }

/-- The reader of addresses that is used. -/
def parse : UrlParser := fun s => (ofText? s).mapError UrlError.message

/-- The address with form pairs after its own query. -/
def withPairs (url : Url) (pairs : List (String × String)) : Url :=
  match url.query with
  | none | some [] => { url with query := some (Form.encode pairs) }
  | some query => { url with query := some (query ++ '&' :: Form.encode pairs) }

/-- What is asked of the server: the path and the query. -/
def target (url : Url) : String :=
  String.ofList <|
    match url.query with
    | none => url.path
    | some query => url.path ++ '?' :: query

/-- The address as a text. -/
def text (url : Url) : String :=
  url.scheme ++ "://" ++ url.server ++ url.target ++
    match url.fragment with
    | none => ""
    | some fragment => String.ofList ('#' :: fragment)

end Url

/-- A base address with a path below it; slashes at the end of the base do not count. -/
def joinPath (base path : String) : String :=
  String.ofList ((base.toList.reverse.dropWhile (· == '/')).reverse ++ path.toList)

end CandleArchive.Web
