import CandleArchive.Proofs.FirstPerKey
import CandleArchive.Proofs.Text.Case

/-!
# Listings — which entries of a ranking count

Entries whose tickers differ only in case or in the blanks around them have one trading symbol. The
best ranked of them is the one that is listed, at its own place.

* **`tradingSymbol_eq_iff`**, `tradingSymbol_of_padded`, `tradingSymbol_eq_of_padded`: entries with one
  symbol;
* `mem_symbols_listings`, **`exists_of_mem_listings`**: the symbols of the listings, and whose they are;
* **`listings_first_per_symbol`**: all of it.
-/

namespace CandleArchive

/-! ## Entries with one symbol -/

section Symbols

variable {ticker other padded quote : String}

/-- **Two tickers have one symbol** when they agree in upper case, blanks around them aside. -/
theorem tradingSymbol_eq_iff :
    tradingSymbol ticker quote = tradingSymbol other quote ↔
      Text.upper (Text.trim ticker) = Text.upper (Text.trim other) :=
  String.append_left_inj _

theorem tradingSymbol_toLower (ticker quote : String) :
    tradingSymbol ticker.toLower quote = tradingSymbol ticker quote := by
  rw [tradingSymbol_eq_iff, Text.trim_toLower, Text.upper_toLower]

theorem tradingSymbol_of_padded (h : Text.Padded ticker padded) :
    tradingSymbol padded quote = tradingSymbol ticker quote :=
  tradingSymbol_eq_iff.mpr (congrArg Text.upper (Text.trim_of_padded h))

theorem tradingSymbol_eq_of_padded (h : Text.Padded other padded)
    (hcase : other.toLower = ticker.toLower) :
    tradingSymbol padded quote = tradingSymbol ticker quote := by
  rw [tradingSymbol_of_padded h, ← tradingSymbol_toLower other, hcase, tradingSymbol_toLower]

end Symbols

/-! ## The listings -/

section Listings

variable {quote symbol : String} {assets : List MarketAsset} {l : Listing}

theorem mem_symbols_listings :
    symbol ∈ (listings quote assets).map Listing.symbol ↔
      ∃ asset ∈ assets, tradingSymbol asset.ticker quote = symbol := by
  rw [listings, firstPerSymbol_eq, mem_map_firstPerKey, List.map_map]
  simp [MarketAsset.listing]

theorem MarketAsset.symbol_listing (quote : String) (asset : MarketAsset) :
    (asset.listing quote).symbol = tradingSymbol asset.ticker quote := rfl

theorem exists_of_mem_listings (h : l ∈ listings quote assets) :
    ∃ asset, assets.find? (fun a => tradingSymbol a.ticker quote = l.symbol) = some asset ∧
      l = asset.listing quote := by
  have hf := mem_listings.mp h
  rw [List.find?_map, Function.comp_def] at hf
  simp only [MarketAsset.symbol_listing] at hf
  obtain ⟨asset, ha, hl⟩ := Option.map_eq_some_iff.mp hf
  exact ⟨asset, ha, hl.symm⟩

theorem listings_eq_zipIdx (quote : String) (assets : List MarketAsset) :
    let derived := assets.map (MarketAsset.listing quote)
    listings quote assets = (derived.zipIdx.filter fun place =>
      (derived.map Listing.symbol).idxOf place.1.symbol = place.2).map Prod.fst := by
  intro derived
  rw [listings, firstPerSymbol_eq, firstPerKey_eq_zipIdx Listing.symbol [] derived 0]
  simp

end Listings

/-- **The listings of a ranking** are those of the first entry that leads to each symbol, in the
order of these entries. -/
theorem listings_first_per_symbol (quote : String) (assets : List MarketAsset) :
    let ls := listings quote assets
    let derived := assets.map (MarketAsset.listing quote)
    (ls.map Listing.symbol).Nodup ∧
    (∀ symbol, symbol ∈ ls.map Listing.symbol ↔
      ∃ asset ∈ assets, tradingSymbol asset.ticker quote = symbol) ∧
    (∀ l ∈ ls, ∃ asset,
      assets.find? (fun a => tradingSymbol a.ticker quote = l.symbol) = some asset ∧
        l.name = asset.displayName ∧ l.imageUrl = asset.image) ∧
    ls.Sublist derived ∧
    ls = (derived.zipIdx.filter fun place =>
      (derived.map Listing.symbol).idxOf place.1.symbol = place.2).map Prod.fst ∧
    (∀ ticker other, tradingSymbol ticker quote = tradingSymbol other quote ↔
      Text.upper (Text.trim ticker) = Text.upper (Text.trim other)) ∧
    ∀ ticker other padded, Text.Padded other padded → other.toLower = ticker.toLower →
      tradingSymbol padded quote = tradingSymbol ticker quote := by
  refine ⟨nodup_listings quote assets, fun _ => mem_symbols_listings, fun l hl => ?_,
    sublist_listings quote assets, listings_eq_zipIdx quote assets, fun _ _ => tradingSymbol_eq_iff,
    fun _ _ _ => tradingSymbol_eq_of_padded⟩
  obtain ⟨asset, hasset, rfl⟩ := exists_of_mem_listings hl
  exact ⟨asset, hasset, rfl, rfl⟩

/-- The later entry of a ticker is left out, and the others keep their order. -/
theorem listings_first_per_symbol_small :
    listings "usdt" [⟨" eth", "Ether", "e.png"⟩, ⟨"btc", "Bitcoin", "b.png"⟩, ⟨"Eth ", "Clone", ""⟩] =
      [⟨"ETHUSDT", "Ether", "e.png"⟩, ⟨"BTCUSDT", "Bitcoin", "b.png"⟩] := by
  obtain ⟨-, -, -, -, hplaces, -⟩ := listings_first_per_symbol "usdt"
    [⟨" eth", "Ether", "e.png"⟩, ⟨"btc", "Bitcoin", "b.png"⟩, ⟨"Eth ", "Clone", ""⟩]
  rw [hplaces]
  decide +kernel

end CandleArchive
