import CandleArchive.History
import Mathlib.Data.List.Basic

/-!
# Long pages — answers with any number of rows

An answer that repeats one row is read row by row, so it has as many rows as are written, and as
many candles. Nothing in the reading bounds their number.

* `row`, `page`: the bytes of a row, and of a page of such rows;
* `tokensFrom_more`, `tokens?_page`: the words of the page, by induction on the rows;
* `foldlM_more`, `tree?_page`: what the words form;
* **`rows?_page`**, `length_candlesOf`: the rows and the candles.
-/

namespace CandleArchive.LongPage

open Json (Token Tree Reading tokens? tokensFrom tree? treeOfTokens?)

/-! ## Words -/

/-- A row of six ones. -/
def row : List UInt8 :=
  ['[', '1', ',', '1', ',', '1', ',', '1', ',', '1', ',', '1', ']'].map Char.toUInt8

/-- The page of `n + 1` such rows. -/
def page (n : ℕ) : List UInt8 :=
  '['.toUInt8 :: (row ++ ((List.replicate n (','.toUInt8 :: row)).flatten ++ [']'.toUInt8]))

/-- The word that is a one. -/
def one : Token := .number ⟨false, [1], none, none⟩

/-- The words of the row. -/
def rowTokens : List Token :=
  [.openList, one, .comma, one, .comma, one, .comma, one, .comma, one, .comma, one, .closeList]

theorem tokensFrom_row (done : List Token) (fuel : ℕ) (rest : List UInt8) :
    tokensFrom done (fuel + 13) (row ++ rest) =
      tokensFrom (rowTokens.reverse ++ done) fuel rest := rfl

theorem tokensFrom_more (n : ℕ) (done : List Token) :
    tokensFrom done (14 * n + 1)
        ((List.replicate n (','.toUInt8 :: row)).flatten ++ [']'.toUInt8]) =
      some (done.reverse ++ (List.replicate n (.comma :: rowTokens)).flatten ++ [.closeList]) := by
  induction n generalizing done with
  | zero =>
    have hclose : tokensFrom done 1 [']'.toUInt8] = some (Token.closeList :: done).reverse := rfl
    rw [List.replicate_zero, List.flatten_nil, List.nil_append, hclose]
    simp
  | succ n ih =>
    have hcomma : ∀ fuel rest, tokensFrom done (fuel + 1) (','.toUInt8 :: rest) =
        tokensFrom (.comma :: done) fuel rest := fun _ _ => rfl
    have hfuel : 14 * (n + 1) + 1 = 14 * n + 1 + 13 + 1 := by omega
    rw [List.replicate_succ, List.flatten_cons, List.cons_append, List.cons_append,
      List.append_assoc, hfuel, hcomma, tokensFrom_row, ih]
    simp [List.replicate_succ]

theorem tokens?_page (n : ℕ) :
    tokens? (page n) =
      some (.openList :: rowTokens ++ (List.replicate n (.comma :: rowTokens)).flatten ++
        [.closeList]) := by
  have hlength : (page n).length = 14 * n + 1 + 13 + 1 := by
    simp [page, row]
    omega
  have hopen : ∀ fuel rest, tokensFrom [] (fuel + 1) ('['.toUInt8 :: rest) =
      tokensFrom [.openList] fuel rest := fun _ _ => rfl
  rw [tokens?, hlength, page, hopen, tokensFrom_row, tokensFrom_more]
  simp

/-! ## Rows -/

/-- What the words of the row form. -/
def rowTree : Tree := .list (List.replicate 6 (.number ⟨false, [1], none, none⟩))

theorem foldlM_more (n : ℕ) (done : List Tree) :
    (List.replicate n (Token.comma :: rowTokens)).flatten.foldlM Reading.step
        (.listNext done []) = some (.listNext (List.replicate n rowTree ++ done) []) := by
  induction n generalizing done with
  | zero => rfl
  | succ n ih =>
    have hrow : (Token.comma :: rowTokens).foldlM Reading.step (.listNext done []) =
        some (.listNext (rowTree :: done) []) := rfl
    rw [List.replicate_succ, List.flatten_cons, List.foldlM_append, hrow, Option.bind_eq_bind,
      Option.bind_some, ih, List.replicate_succ', List.append_assoc, List.singleton_append]

theorem tree?_page (n : ℕ) : tree? (page n) = some (.list (List.replicate (n + 1) rowTree)) := by
  have hopen : (Token.openList :: rowTokens).foldlM Reading.step (.value []) =
      some (.listNext [rowTree] []) := rfl
  have hclose : ∀ done : List Tree, [Token.closeList].foldlM Reading.step (.listNext done []) =
      some (.finished (.list done.reverse)) := fun _ => rfl
  rw [tree?, tokens?_page, Option.bind_some, treeOfTokens?, List.foldlM_append, List.foldlM_append,
    hopen, Option.bind_eq_bind, Option.bind_some, foldlM_more, Option.bind_some, hclose]
  simp [List.replicate_succ]

/-- The row, as it is read. -/
def value : Row := List.replicate 6 (.integer 1)

theorem rows?_page (n : ℕ) : rows? (page n) = some (List.replicate (n + 1) value) := by
  have hrow : row? rowTree = some value := rfl
  have hrows : ∀ k, (List.replicate k rowTree).mapM row? = some (List.replicate k value) := by
    intro k
    induction k with
    | zero => rfl
    | succ k ih =>
      rw [List.replicate_succ, List.mapM_cons, hrow, ih]
      rfl
  rw [rows?, tree?_page]
  exact hrows (n + 1)

theorem length_candlesOf (n : ℕ) : (candlesOf (List.replicate n value)).length = n := by
  obtain ⟨candle, hcandle⟩ : ∃ candle, Row.candle? value = some candle :=
    Option.isSome_iff_exists.mp (by decide +kernel)
  rw [candlesOf, List.filterMap_replicate_of_some hcandle, List.length_replicate]

end CandleArchive.LongPage
