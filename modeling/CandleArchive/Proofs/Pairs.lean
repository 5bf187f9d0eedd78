import CandleArchive.Proofs.Run
import CandleArchive.Proofs.Timeframe

/-!
# Pairs — the candles of different pairs never meet

The key of a candle names its pair. So the rows that one pair submits cannot take a key of another
pair, and of what a run takes the part of a pair is what was taken of its own batch.

* `CandleRow.isOf`, `pair_unique`: the pair of a row;
* `nodup_pairs`: a run visits no pair twice;
* `isOf_of_mem_accepted`, **`filter_takenBatches`**, **`find?_takenBatches`**: whose rows are taken;
* `mem_candleKeys_addCandles`: rows of other pairs take no key of this one.
-/

namespace CandleArchive

/-- The row is a candle of the pair. -/
def CandleRow.isOf (pair : String × Timeframe) (row : CandleRow) : Bool :=
  row.symbol = pair.1 ∧ row.timeframe = pair.2.name

theorem CandleRow.isOf_eq_true {pair : String × Timeframe} {row : CandleRow} :
    row.isOf pair = true ↔ row.symbol = pair.1 ∧ row.timeframe = pair.2.name := by
  simp [isOf]

theorem CandleRow.isOf_congr {pair : String × Timeframe} {row other : CandleRow}
    (h : row.key = other.key) : row.isOf pair = other.isOf pair := by
  have hs : row.symbol = other.symbol := congrArg CandleKey.symbol h
  have ht : row.timeframe = other.timeframe := congrArg CandleKey.timeframe h
  unfold isOf
  rw [hs, ht]

theorem pair_unique {pair other : String × Timeframe} {row : CandleRow} (h : row.isOf pair = true)
    (h' : row.isOf other = true) : pair = other := by
  rw [CandleRow.isOf_eq_true] at h h'
  exact Prod.ext (h.1.symm.trans h'.1) (Timeframe.name_injective (h.2.symm.trans h'.2))

theorem nodup_pairs {ls : List Listing} {timeframes : List Timeframe}
    (hl : (ls.map Listing.symbol).Nodup) (ht : timeframes.Nodup) : (pairs ls timeframes).Nodup := by
  have he : pairs ls timeframes = (ls.map Listing.symbol).product timeframes := by
    rw [pairs, List.product, List.flatMap_map]
  rw [he]
  exact hl.product ht

/-! ## Whose rows are taken -/

section Taken

variable {source : CandleSource} {limit : Nat} {store : Store} {pair : String × Timeframe}
  {ps : List (String × Timeframe)} {row : CandleRow}

theorem isOf_of_mem_pairBatch (h : row ∈ pairBatch source limit pair) : row.isOf pair = true :=
  CandleRow.isOf_eq_true.mpr (pair_of_mem_batch h)

theorem isOf_of_mem_accepted (h : row ∈ store.accepted (pairBatch source limit pair)) :
    row.isOf pair = true :=
  isOf_of_mem_pairBatch (Store.mem_of_mem_accepted h)

theorem filter_accepted_of_ne {other : String × Timeframe} (h : other ≠ pair) :
    (store.accepted (pairBatch source limit other)).filter (·.isOf pair) = [] := by
  rw [List.filter_eq_nil_iff]
  intro row hr hp
  exact h (pair_unique (isOf_of_mem_accepted hr) hp)

/-- **What a run takes of a pair** is what was taken of its own batch. -/
theorem filter_takenBatches (hd : ps.Nodup) (hp : pair ∈ ps) :
    (takenBatches source limit store ps).filter (·.isOf pair) =
      store.accepted (pairBatch source limit pair) := by
  induction ps with
  | nil => cases hp
  | cons q ps ih =>
    rw [List.nodup_cons] at hd
    rw [takenBatches, List.flatMap_cons, List.filter_append, ← takenBatches]
    by_cases hq : q = pair
    · subst hq
      have hown : (store.accepted (pairBatch source limit q)).filter (·.isOf q) =
          store.accepted (pairBatch source limit q) :=
        List.filter_eq_self.mpr fun row hr => isOf_of_mem_accepted hr
      have hrest : (takenBatches source limit store ps).filter (·.isOf q) = [] := by
        rw [takenBatches, List.filter_flatMap, List.flatMap_eq_nil_iff]
        intro r hr
        exact filter_accepted_of_ne fun e => hd.1 (e ▸ hr)
      rw [hown, hrest, List.append_nil]
    · rw [filter_accepted_of_ne hq, List.nil_append]
      exact ih hd.2 ((List.mem_cons.mp hp).resolve_left (Ne.symm hq))

/-- **What is taken under a key** is what its pair submitted under it. -/
theorem find?_takenBatches {k : CandleKey} (hp : pair ∈ ps)
    (h : (store.accepted (pairBatch source limit pair)).find? (·.key = k) = some row) :
    (takenBatches source limit store ps).find? (·.key = k) = some row := by
  have hrow : row.isOf pair = true := isOf_of_mem_accepted (List.mem_of_find?_eq_some h)
  have hk : row.key = k := by simpa using List.find?_some h
  induction ps with
  | nil => cases hp
  | cons q ps ih =>
    rw [takenBatches, List.flatMap_cons, List.find?_append, ← takenBatches]
    by_cases hq : q = pair
    · rw [hq, h, Option.some_or]
    · have hnone : (store.accepted (pairBatch source limit q)).find? (·.key = k) = none := by
        rw [List.find?_eq_none]
        intro r hr hrk
        have he : r.key = row.key := by simpa [hk] using hrk
        refine hq (pair_unique (isOf_of_mem_accepted hr) ?_)
        rw [CandleRow.isOf_congr he, hrow]
      rw [hnone, Option.none_or]
      exact ih ((List.mem_cons.mp hp).resolve_left (Ne.symm hq))

theorem find?_takenBatches_eq_some {k : CandleKey} :
    (takenBatches source limit store ps).find? (·.key = k) = some row ↔
      ∃ pair ∈ ps, (store.accepted (pairBatch source limit pair)).find? (·.key = k) = some row := by
  constructor
  · intro h
    rw [takenBatches, List.find?_flatMap] at h
    exact List.exists_of_findSome?_eq_some h
  · rintro ⟨pair, hp, h⟩
    exact find?_takenBatches hp h

/-- Rows of other pairs take no key of this one. -/
theorem mem_candleKeys_addCandles {more : List CandleRow} (hm : ∀ r ∈ more, r.isOf pair = false)
    (hr : row.isOf pair = true) :
    row.key ∈ (store.addCandles more).candleKeys ↔ row.key ∈ store.candleKeys := by
  cases hs : store.candles with
  | none => simp [Store.candleKeys, Store.candleRows, Store.addCandles, hs]
  | some table =>
    have hk : (store.addCandles more).candleKeys =
        (more.foldl CandleRow.addTo table.rows).map CandleRow.key := by
      simp [Store.candleKeys, Store.candleRows, Store.addCandles, hs]
    have ho : store.candleKeys = table.rows.map CandleRow.key := by
      simp [Store.candleKeys, Store.candleRows, hs]
    rw [hk, ho, CandleRow.map_key_foldl_addTo, List.mem_append, or_iff_left_iff_imp]
    intro h
    obtain ⟨r, hr', he⟩ := List.mem_map.mp (mem_map_firstPerKey.mp h).1
    have hf := hm r hr'
    rw [CandleRow.isOf_congr he, hr] at hf
    cases hf

end Taken

end CandleArchive
