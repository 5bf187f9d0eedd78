import CandleArchive.Proofs.Store.Insertion
import CandleArchive.Proofs.Store.Registration

/-!
# Agreement — tables that differ in what the database chooses

Runs that come to the same result by other ways leave the stored rows alike; the rows that are new may
come in another order, and so under other surrogate keys, and assets with other stamps.

* `AgreeFrom`: tables with the same stored rows, and with the same new ones up to their order;
* `AssetRow.map_unstamped_newRows`: new assets without what the database chooses;
* **`agree_foldl_addTo_of_find?`**: batches with the same first candle under each key.
-/

namespace CandleArchive

/-- The first `n` rows are the same; of the others, the same come in any order, up to what `erase`
leaves out. -/
def AgreeFrom {ρ : Type} (n : Nat) (erase : ρ → ρ) (rows other : List ρ) : Prop :=
  rows.take n = other.take n ∧ ((rows.drop n).map erase).Perm ((other.drop n).map erase)

theorem AgreeFrom.refl {ρ : Type} (n : Nat) (erase : ρ → ρ) (rows : List ρ) :
    AgreeFrom n erase rows rows :=
  ⟨rfl, .refl _⟩

theorem agreeFrom_append {ρ : Type} {n : Nat} {erase : ρ → ρ} {old rows other : List ρ}
    (hn : old.length = n) (h : (rows.map erase).Perm (other.map erase)) :
    AgreeFrom n erase (old ++ rows) (old ++ other) := by
  subst hn
  refine ⟨?_, ?_⟩
  · rw [List.take_left, List.take_left]
  · rwa [List.drop_left, List.drop_left]

theorem AgreeFrom.length_eq {ρ : Type} {n : Nat} {erase : ρ → ρ} {rows other : List ρ}
    (h : AgreeFrom n erase rows other) : rows.length = other.length := by
  have ht := congrArg List.length h.1
  have hd := h.2.length_eq
  rw [List.length_map, List.length_map, List.length_drop, List.length_drop] at hd
  rw [List.length_take, List.length_take] at ht
  omega

namespace AssetRow

theorem map_unstamped_newRows (now : Int) (n : Nat) (ls : List Listing) :
    (newRows now n ls).map unstamped = ls.map fun l => (ofListing 0 0 l).unstamped := by
  induction ls generalizing n with
  | nil => rfl
  | cons l ls ih =>
    rw [newRows, List.map_cons, List.map_cons, ih, unstamped_ofListing]

end AssetRow

/-- **Batches with the same first candle under each key** leave tables that agree. -/
theorem agree_foldl_addTo_of_find? {new more : List CandleRow}
    (h : ∀ k, new.find? (·.key = k) = more.find? (·.key = k)) (rows : List CandleRow) :
    AgreeFrom rows.length CandleRow.withoutId (new.foldl CandleRow.addTo rows)
      (more.foldl CandleRow.addTo rows) := by
  rw [CandleRow.foldl_addTo, CandleRow.foldl_addTo]
  refine agreeFrom_append rfl ?_
  rw [CandleRow.map_withoutId_numbered, CandleRow.map_withoutId_numbered]
  exact (perm_firstPerKey h).map _

end CandleArchive
