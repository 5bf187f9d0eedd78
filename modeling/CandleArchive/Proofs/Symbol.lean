import CandleArchive.Proofs.Config
import CandleArchive.Proofs.Listings
import CandleArchive.Proofs.Text.Upper

/-!
# Symbols — one spelling of each

Rows are found by their trading symbol. It is in upper case and stays so, and neither the case nor
the padding of the quote asset matters, nor the padding of the ticker. The quote asset is put into
upper case when it is read and once more when a symbol is derived: once is enough.

* `upper_tradingSymbol`, `tradingSymbol_upper_trim`: one symbol;
* `upper_of_mem_listings`, `listings_upper_trim`: the listings of a ranking;
* `Lookup.withQuote`, **`ofLookup_withQuote`**: the settings with another quote asset;
* **`symbols_canonical`**: all of it.
-/

namespace CandleArchive

/-! ## One symbol -/

section Symbols

variable {quote : String}

theorem upper_tradingSymbol (ticker quote : String) :
    Text.upper (tradingSymbol ticker quote) = tradingSymbol ticker quote := by
  rw [tradingSymbol, Text.upper_append, Text.upper_upper, Text.upper_upper]

theorem tradingSymbol_upper_trim (ticker quote : String) :
    tradingSymbol (Text.upper (Text.trim ticker)) quote = tradingSymbol ticker quote := by
  rw [tradingSymbol_eq_iff, Text.upper_trim_upper, Text.trim_trim]

theorem upper_of_mem_listings {assets : List MarketAsset} {l : Listing}
    (h : l ∈ listings quote assets) : Text.upper l.symbol = l.symbol := by
  obtain ⟨asset, -, rfl⟩ := exists_of_mem_listings h
  exact upper_tradingSymbol asset.ticker quote

theorem listings_upper_trim (quote : String) (assets : List MarketAsset) :
    listings quote (assets.map fun a => { a with ticker := Text.upper (Text.trim a.ticker) }) =
      listings quote assets := by
  have hone : ∀ a : MarketAsset,
      MarketAsset.listing quote { a with ticker := Text.upper (Text.trim a.ticker) } =
        a.listing quote := by
    intro a
    simp only [MarketAsset.listing, tradingSymbol_upper_trim]
  rw [listings, List.map_map, listings]
  exact congrArg _ (List.map_congr_left fun a _ => hone a)

end Symbols

/-! ## The quote asset that is set -/

/-- The texts of the settings with `raw` as that of the quote asset. -/
def Lookup.withQuote (lookup : Lookup) (raw : String) : Lookup := fun key =>
  if key = "QUOTE_ASSET" then some raw else lookup key

section Settings

variable {lookup : Lookup} {c : Config} {raw key : String}

theorem quoteSetting_withQuote :
    quoteSetting (lookup.withQuote raw) = Text.upper (Text.trim raw) := by
  rw [quoteSetting, Lookup.withQuote, if_pos rfl]

theorem withQuote_of_ne (h : key ≠ "QUOTE_ASSET") : lookup.withQuote raw key = lookup key :=
  if_neg h

theorem numberSet_withQuote {bound default n : ℕ} (h : key ≠ "QUOTE_ASSET") :
    NumberSet (lookup.withQuote raw) key bound default n ↔
      NumberSet lookup key bound default n := by
  rw [NumberSet, withQuote_of_ne h, NumberSet]

theorem ofLookup_withQuote (h : Config.ofLookup lookup = .ok c) :
    Config.ofLookup (lookup.withQuote raw) =
      .ok { c with quoteAsset := Text.upper (Text.trim raw) } := by
  obtain ⟨hts, htop, hlimit, hdelay, htimeout, -, hdatabase, hranking, hexchange⟩ :=
    ofLookup_eq_ok.mp h
  refine ofLookup_eq_ok.mpr ⟨?_, (numberSet_withQuote (by decide)).mpr htop,
    (numberSet_withQuote (by decide)).mpr hlimit, (numberSet_withQuote (by decide)).mpr hdelay,
    (numberSet_withQuote (by decide)).mpr htimeout, quoteSetting_withQuote.symm, ?_, ?_, ?_⟩
  · rwa [TimeframesSet, withQuote_of_ne (by decide)]
  · rwa [withQuote_of_ne (by decide)]
  · rwa [withQuote_of_ne (by decide)]
  · rwa [withQuote_of_ne (by decide)]

end Settings

/-- **Symbols are canonical**: ticker and quote asset are trimmed and put into upper case, and doing
so beforehand changes nothing. -/
theorem symbols_canonical (lookup : Lookup) (c : Config) (h : Config.ofLookup lookup = .ok c)
    (ticker raw : String) :
    let stored : Config := { c with quoteAsset := Text.upper (Text.trim raw) }
    Config.ofLookup (lookup.withQuote raw) = .ok stored ∧
      tradingSymbol ticker stored.quoteAsset =
        Text.upper (Text.trim ticker) ++ Text.upper (Text.trim raw) ∧
      tradingSymbol (Text.upper (Text.trim ticker)) stored.quoteAsset =
        tradingSymbol ticker stored.quoteAsset ∧
      (∀ padded, Text.Padded ticker padded →
        tradingSymbol padded stored.quoteAsset = tradingSymbol ticker stored.quoteAsset) ∧
      (∀ other, Text.Padded raw other ∨ other = Text.upper raw →
        Config.ofLookup (lookup.withQuote other) = .ok stored) ∧
      Text.upper (tradingSymbol ticker stored.quoteAsset) =
        tradingSymbol ticker stored.quoteAsset := by
  intro stored
  refine ⟨ofLookup_withQuote h, ?_, tradingSymbol_upper_trim ticker _,
    fun padded hpadded => tradingSymbol_of_padded hpadded, fun other hother => ?_,
    upper_tradingSymbol ticker _⟩
  · rw [tradingSymbol, Text.upper_upper]
  · have hform : Text.upper (Text.trim other) = Text.upper (Text.trim raw) := by
      rcases hother with hpadded | rfl
      · rw [Text.trim_of_padded hpadded]
      · exact Text.upper_trim_upper raw
    rw [ofLookup_withQuote h, hform]

/-- Letters that become several, between blanks of several kinds. -/
theorem symbols_canonical_small :
    ∃ c, Config.ofLookup (Lookup.withQuote (fun _ => none) "\u00A0\uFB01at ") = .ok c ∧
      tradingSymbol " gro\u00DF\u3000" c.quoteAsset = "GROSSFIAT" := by
  obtain ⟨hstored, hsymbol, -⟩ :=
    symbols_canonical (fun _ => none) _ rfl " gro\u00DF\u3000" "\u00A0\uFB01at "
  exact ⟨_, hstored, hsymbol.trans (by decide +kernel)⟩

end CandleArchive
