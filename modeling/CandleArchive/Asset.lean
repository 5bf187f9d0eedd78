import CandleArchive.Text.Blank
import CandleArchive.Text.Upper

/-!
# Assets — from a ranking entry to a listing

The ranking names an asset by its ticker; the exchange knows it by a trading symbol, which is the
ticker in upper case followed by the quote asset. Two entries of a ranking may lead to one symbol,
and then only the better ranked one counts.

* `MarketAsset`, `Listing`: an entry of the ranking, and what is registered of it;
* `tradingSymbol`, `MarketAsset.listing`: the derivation;
* `Listing.firstPerSymbol`, `listings`: a ranking without later entries of a symbol.
-/

namespace CandleArchive

/-- An entry of the ranking, best first. The image is empty when the provider has none. -/
structure MarketAsset where
  ticker : String
  displayName : String
  image : String
  deriving DecidableEq, Repr

/-- An asset under its trading symbol, ready to be registered. -/
structure Listing where
  symbol : String
  name : String
  imageUrl : String
  deriving DecidableEq, Repr

/-- The symbol of `ticker` traded against `quote`. -/
def tradingSymbol (ticker quote : String) : String :=
  Text.upper (Text.trim ticker) ++ Text.upper quote

/-- The listing of an entry traded against `quote`. -/
def MarketAsset.listing (quote : String) (asset : MarketAsset) : Listing where
  symbol := tradingSymbol asset.ticker quote
  name := asset.displayName
  imageUrl := asset.image

/-- The listings whose symbol is neither in `seen` nor that of an earlier listing. -/
def Listing.firstPerSymbol (seen : List String) : List Listing → List Listing
  | [] => []
  | l :: ls =>
    if l.symbol ∈ seen then firstPerSymbol seen ls
    else l :: firstPerSymbol (l.symbol :: seen) ls

/-- The listings of a ranking traded against `quote`, one for each symbol. -/
def listings (quote : String) (assets : List MarketAsset) : List Listing :=
  Listing.firstPerSymbol [] (assets.map (MarketAsset.listing quote))

end CandleArchive
