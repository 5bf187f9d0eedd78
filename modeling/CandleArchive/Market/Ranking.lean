import CandleArchive.Asset
import CandleArchive.Event
import CandleArchive.Json.Value

/-!
# The ranking — the best assets by market capitalization

A ranking is asked for a number of assets and gives all of them or none. The ranking of the web
serves a page of at most 250 entries; an entry has a symbol, a name and perhaps an image, and one
entry that cannot be read spoils the page.

* `RankingReply`, `Ranking`: the answer of a ranking, and a ranking;
* `marketAsset?`, `marketAssets?`: the entries of an answer;
* `Ranking.behind`, `Ranking.ofWeb`: the ranking behind a base address.
-/

namespace CandleArchive

open Json (Tree Piece)

/-- The answer of a ranking, and what was seen meanwhile. -/
structure RankingReply where
  assets : Except SourceFailure (List MarketAsset)
  events : List Event := []

/-- A provider of the best assets, up to a number. -/
abbrev Ranking := Nat → RankingReply

/-- The text that a tree consists of. -/
def textOf? : Tree → Option String
  | .text pieces => Json.text? pieces
  | _ => none

/-- The image of an entry; null stands for none. -/
def imageOf? : Tree → Option String
  | .null => some ""
  | tree => textOf? tree

/-- The known members of an entry that were read so far. -/
structure EntryMembers where
  symbol : Option String := none
  name : Option String := none
  image : Option String := none

/-- The known members with one more member. A known member comes once; the value of another is not
looked at. -/
def EntryMembers.add (known : EntryMembers) (member : List Piece × Tree) : Option EntryMembers := do
  match ← Json.text? member.1 with
  | "symbol" =>
    if known.symbol.isSome then none
    else return { known with symbol := some (← textOf? member.2) }
  | "name" =>
    if known.name.isSome then none
    else return { known with name := some (← textOf? member.2) }
  | "image" =>
    if known.image.isSome then none
    else return { known with image := some (← imageOf? member.2) }
  | _ => return known

/-- The entry that a tree denotes: an object, or a list of its members in order. -/
def marketAsset? : Tree → Option MarketAsset
  | .object members => do
    let known ← members.foldlM EntryMembers.add {}
    return ⟨← known.symbol, ← known.name, known.image.getD ""⟩
  | .list [symbol, name] => return ⟨← textOf? symbol, ← textOf? name, ""⟩
  | .list [symbol, name, image] => return ⟨← textOf? symbol, ← textOf? name, ← imageOf? image⟩
  | _ => none

/-- The entries that the bytes of an answer consist of. -/
def marketAssets? (bs : List UInt8) : Option (List MarketAsset) :=
  match Json.tree? bs with
  | some (.list items) => items.mapM marketAsset?
  | _ => none

/-- The most entries that a page holds. -/
def maxPerPage : Nat := 250

/-- The form pairs that ask for the first page. -/
def rankingPairs (perPage : Nat) : List (String × String) :=
  [("vs_currency", "usd"), ("order", "market_cap_desc"), ("per_page", toString perPage),
   ("page", "1")]

/-- What a page of at most `perPage` entries says in an answer, and the line that is logged. -/
def readPage (url : String) (perPage : Nat) :
    Web.Answer → Except SourceFailure (List MarketAsset) × List LogLine
  | .unreachable detail => (.error (.noAnswer url detail), [])
  | .response status body =>
    if ¬ Web.isSuccess status then (.error (.badStatus url status), [])
    else
      match body.bind marketAssets? with
      | none => (.error (.badBody url "error decoding response body"), [])
      | some assets =>
        let page := assets.take perPage
        (.ok page, [.fetchedRanking page.length])

/-- The ranking behind a base address, for a reader of addresses. -/
def Ranking.behind (parse : Web.UrlParser) (transport : Web.Transport) (base : String) : Ranking :=
    fun count =>
  if count = 0 then { assets := .ok [] }
  else
    let perPage := min count maxPerPage
    let url := Web.joinPath base "/coins/markets"
    let fetch := Web.fetch parse transport url (rankingPairs perPage)
    let (assets, lines) := readPage url perPage fetch.answer
    { assets
      events := .logged (.fetchingRanking perPage url) :: fetch.sent.toList.map .sent ++
        lines.map .logged }

/-- The ranking behind a base address. -/
def Ranking.ofWeb (transport : Web.Transport) (base : String) : Ranking :=
  behind Web.Url.parse transport base

end CandleArchive
