import CandleArchive.Asset
import Mathlib.Data.List.Nodup
import Mathlib.Data.List.Perm.Basic

/-!
# First per key — the earliest element of each key

Both tables take the first element that comes under a key and turn every later one away. What a batch
leaves behind is therefore a function of the batch and of the keys that are taken.

* `firstPerKey`: the elements whose key is neither taken nor that of an earlier element;
* `firstPerKey_congr`, `firstPerKey_append`, `filter_firstPerKey`: the taken keys that matter, batches
  one after another, and parts of a batch;
* `mem_firstPerKey`, `firstPerKey_eq_zipIdx`, `sublist_firstPerKey`, `nodup_firstPerKey`: which
  elements these are, where they stand, their order, and that their keys differ;
* **`perm_firstPerKey`**: batches with the same first elements leave the same elements behind;
* `nodup_listings`, `sublist_listings`, `mem_listings`: the listings of a ranking.
-/

namespace CandleArchive

variable {α κ : Type} [DecidableEq κ]

/-- The elements whose key is neither among the taken ones nor that of an earlier element. -/
def firstPerKey (key : α → κ) (taken : List κ) : List α → List α
  | [] => []
  | a :: as =>
    if key a ∈ taken then firstPerKey key taken as else a :: firstPerKey key (key a :: taken) as

variable {key : α → κ} {taken other : List κ} {as bs : List α}

theorem firstPerKey_congr (h : ∀ a ∈ as, key a ∈ taken ↔ key a ∈ other) :
    firstPerKey key taken as = firstPerKey key other as := by
  induction as generalizing taken other with
  | nil => rfl
  | cons a as ih =>
    simp only [firstPerKey, h a List.mem_cons_self]
    have ht : ∀ b ∈ as, key b ∈ taken ↔ key b ∈ other := fun b hb => h b (List.mem_cons_of_mem a hb)
    split_ifs
    · exact ih ht
    · congr 1
      exact ih fun b hb => by rw [List.mem_cons, List.mem_cons, ht b hb]

/-- **The elements that are left**: those whose key is free, at its first occurrence. -/
theorem mem_firstPerKey {x : α} :
    x ∈ firstPerKey key taken as ↔ key x ∉ taken ∧ as.find? (fun a => key a = key x) = some x := by
  induction as generalizing taken with
  | nil => simp [firstPerKey]
  | cons a as ih =>
    by_cases ha : key a = key x
    · rw [List.find?_cons_of_pos (by simpa using ha)]
      by_cases hx : key x ∈ taken
      · simp [firstPerKey, ha, hx, ih]
      · simp only [firstPerKey, ha, hx, if_false, List.mem_cons, ih, Option.some_inj]
        simp [eq_comm]
    · rw [List.find?_cons_of_neg (by simpa using ha)]
      simp only [firstPerKey]
      split_ifs
      · exact ih
      · have hne : x ≠ a := fun e => ha (by rw [e])
        simp [ih, hne, Ne.symm ha]

theorem mem_of_mem_firstPerKey {x : α} (h : x ∈ firstPerKey key taken as) : x ∈ as :=
  List.mem_of_find?_eq_some (mem_firstPerKey.mp h).2

theorem sublist_firstPerKey : (firstPerKey key taken as).Sublist as := by
  induction as generalizing taken with
  | nil => exact List.Sublist.refl _
  | cons a as ih =>
    rw [firstPerKey]
    split_ifs
    · exact ih.cons a
    · exact ih.cons_cons a

theorem firstPerKey_eq_zipIdx (key : α → κ) (taken : List κ) (as : List α) (n : ℕ) :
    firstPerKey key taken as = ((as.zipIdx n).filter fun place =>
      key place.1 ∉ taken ∧ n + (as.map key).idxOf (key place.1) = place.2).map Prod.fst := by
  induction as generalizing taken n with
  | nil => rfl
  | cons a as ih =>
    have hrest : (as.zipIdx (n + 1)).filter (fun place => key place.1 ∉ taken ∧
          n + ((a :: as).map key).idxOf (key place.1) = place.2) =
        (as.zipIdx (n + 1)).filter fun place => key place.1 ∉ key a :: taken ∧
          n + 1 + (as.map key).idxOf (key place.1) = place.2 := by
      refine List.filter_congr fun place hplace => ?_
      have hlater : n + 1 ≤ place.2 := List.le_snd_of_mem_zipIdx hplace
      by_cases hk : key place.1 = key a
      · -- the key occurs at place `n` already
        have hne : n ≠ place.2 := by omega
        simp [hk, hne]
      · rw [List.map_cons, List.idxOf_cons_ne _ (Ne.symm hk)]
        simp [hk, Nat.add_assoc, Nat.add_comm 1]
    rw [List.zipIdx_cons]
    by_cases ha : key a ∈ taken
    · have hsame : firstPerKey key taken as = firstPerKey key (key a :: taken) as := by
        refine firstPerKey_congr fun b _ => ?_
        have hb : key b = key a → key b ∈ taken := fun e => e ▸ ha
        simpa using hb
      rw [List.filter_cons_of_neg (by simp [ha]), hrest, ← ih, ← hsame, firstPerKey, if_pos ha]
    · rw [List.filter_cons_of_pos (by simp [ha]), hrest, List.map_cons, ← ih, firstPerKey, if_neg ha]

theorem mem_map_firstPerKey {k : κ} :
    k ∈ (firstPerKey key taken as).map key ↔ k ∈ as.map key ∧ k ∉ taken := by
  simp only [List.mem_map, mem_firstPerKey]
  constructor
  · rintro ⟨a, ⟨ht, hf⟩, rfl⟩
    exact ⟨⟨a, List.mem_of_find?_eq_some hf, rfl⟩, ht⟩
  · rintro ⟨⟨a, ha, rfl⟩, ht⟩
    obtain ⟨b, hb⟩ := Option.isSome_iff_exists.mp
      (List.find?_isSome (p := fun b => decide (key b = key a)).mpr ⟨a, ha, by simp⟩)
    have hk : key b = key a := by simpa using List.find?_some hb
    exact ⟨b, ⟨by rwa [hk], by rw [hk]; exact hb⟩, hk⟩

theorem nodup_firstPerKey : ((firstPerKey key taken as).map key).Nodup := by
  induction as generalizing taken with
  | nil => exact List.nodup_nil
  | cons a as ih =>
    simp only [firstPerKey]
    split_ifs
    · exact ih
    · rw [List.map_cons, List.nodup_cons, mem_map_firstPerKey]
      exact ⟨fun h => h.2 List.mem_cons_self, ih⟩

theorem firstPerKey_eq_nil (h : ∀ a ∈ as, key a ∈ taken) : firstPerKey key taken as = [] := by
  rw [List.eq_nil_iff_forall_not_mem]
  intro x hx
  exact (mem_firstPerKey.mp hx).1 (h x (mem_of_mem_firstPerKey hx))

theorem firstPerKey_eq_self (hd : (as.map key).Nodup) (h : ∀ a ∈ as, key a ∉ taken) :
    firstPerKey key taken as = as := by
  induction as generalizing taken with
  | nil => rfl
  | cons a as ih =>
    rw [List.map_cons, List.nodup_cons] at hd
    rw [firstPerKey, if_neg (h a List.mem_cons_self)]
    congr 1
    refine ih hd.2 fun b hb hk => ?_
    rcases List.mem_cons.mp hk with hk | hk
    · exact hd.1 (hk ▸ List.mem_map_of_mem hb)
    · exact h b (List.mem_cons_of_mem a hb) hk

theorem length_firstPerKey_le (key : α → κ) (taken : List κ) (as : List α) :
    (firstPerKey key taken as).length ≤ as.length := by
  induction as generalizing taken with
  | nil => exact Nat.le_refl 0
  | cons a as ih =>
    rw [firstPerKey]
    split_ifs
    · exact Nat.le_succ_of_le (ih taken)
    · exact Nat.succ_le_succ (ih (key a :: taken))

/-- What is left of two batches is what is left of the first, and of the second when the keys of the
first are taken too. -/
theorem firstPerKey_append (as bs : List α) :
    firstPerKey key taken (as ++ bs) =
      firstPerKey key taken as ++ firstPerKey key (taken ++ as.map key) bs := by
  induction as generalizing taken with
  | nil => simp [firstPerKey]
  | cons a as ih =>
    rw [List.cons_append, firstPerKey, firstPerKey, List.map_cons]
    split_ifs with ha
    · rw [ih]
      congr 1
      refine firstPerKey_congr fun b _ => ?_
      have hb : key b = key a → key b ∈ taken := fun e => e ▸ ha
      rw [List.mem_append, List.mem_append, List.mem_cons]
      tauto
    · rw [ih, List.cons_append]
      congr 2
      refine firstPerKey_congr fun b _ => ?_
      rw [List.mem_cons, List.mem_append, List.mem_append, List.mem_cons]
      tauto

theorem filter_firstPerKey {p : α → Bool} (hp : ∀ a b, key a = key b → p a = p b) :
    (firstPerKey key taken as).filter p = firstPerKey key taken (as.filter p) := by
  induction as generalizing taken with
  | nil => rfl
  | cons a as ih =>
    by_cases ha : p a = true
    · rw [List.filter_cons_of_pos ha]
      simp only [firstPerKey]
      split_ifs
      · exact ih
      · rw [List.filter_cons_of_pos ha, ih]
    · rw [List.filter_cons_of_neg ha]
      simp only [firstPerKey]
      split_ifs
      · exact ih
      · rw [List.filter_cons_of_neg ha, ih]
        refine firstPerKey_congr fun b hb => ?_
        have hne : key b ≠ key a := fun e => ha (hp b a e ▸ (List.mem_filter.mp hb).2)
        simp [hne]

/-- **Batches with the same first elements leave the same elements behind**, up to their order. -/
theorem perm_firstPerKey
    (h : ∀ k, as.find? (fun a => key a = k) = bs.find? (fun a => key a = k)) :
    (firstPerKey key taken as).Perm (firstPerKey key taken bs) := by
  rw [List.perm_ext_iff_of_nodup nodup_firstPerKey.of_map nodup_firstPerKey.of_map]
  intro x
  rw [mem_firstPerKey, mem_firstPerKey, h]

theorem firstPerSymbol_eq (seen : List String) (ls : List Listing) :
    Listing.firstPerSymbol seen ls = firstPerKey Listing.symbol seen ls := by
  induction ls generalizing seen with
  | nil => rfl
  | cons l ls ih => simp only [Listing.firstPerSymbol, firstPerKey, ih]

theorem nodup_listings (quote : String) (assets : List MarketAsset) :
    ((listings quote assets).map Listing.symbol).Nodup := by
  rw [listings, firstPerSymbol_eq]
  exact nodup_firstPerKey

theorem sublist_listings (quote : String) (assets : List MarketAsset) :
    (listings quote assets).Sublist (assets.map (MarketAsset.listing quote)) := by
  rw [listings, firstPerSymbol_eq]
  exact sublist_firstPerKey

/-- **The listings** are those of the best ranked entry of each symbol. -/
theorem mem_listings {quote : String} {assets : List MarketAsset} {l : Listing} :
    l ∈ listings quote assets ↔
      (assets.map (MarketAsset.listing quote)).find? (·.symbol = l.symbol) = some l := by
  rw [listings, firstPerSymbol_eq, mem_firstPerKey]
  exact and_iff_right List.not_mem_nil

end CandleArchive
