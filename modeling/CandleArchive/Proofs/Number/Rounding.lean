import CandleArchive.Number.Binary64
import Mathlib.Algebra.Order.Field.Power
import Mathlib.Data.Nat.Cast.Order.Field
import Mathlib.Data.Rat.Cast.Order
import Mathlib.Tactic.FieldSimp
import Mathlib.Tactic.Linarith
import Mathlib.Tactic.Positivity
import Mathlib.Tactic.Ring

/-!
# Rounding — the double nearest to a quotient

A finite double is a natural number of units `1 / 2 ^ 1074`, and the magnitudes count the doubles from
zero on. From `2 ^ p * 2 ^ 52` units on the doubles are multiples of `2 ^ p` units, so the nearest
one is found by rounding a natural quotient.

* `absValue`, **`IsNearest`**: the double nearest to a number, the even one of two, where infinity
  counts as `2 ^ 1024`;
* `roundDiv_nearest`: rounding a quotient;
* `units`, `strictMono_units`, `units_significand`: the doubles by their magnitude;
* `NearestUpTo`, `nearestUpTo_significand`, `NearestUpTo.eq`: the nearest magnitude, found and unique;
* **`isNearest_ofRatio`**, **`isNearest_ofDecimal`**: quotients and decimals;
* **`IsNearest.isFinite_iff`**: what does not overflow.
-/

namespace CandleArchive.Number.Binary64

/-- The absolute value of a finite double; an infinity counts as `2 ^ 1024`. -/
def absValue (x : Binary64) : ℚ := x.scaled / 2 ^ 1074

/-- The double `x` is the one nearest to `± q`; of two that are equally near, the even one. -/
structure IsNearest (x : Binary64) (negative : Bool) (q : ℚ) : Prop where
  sign : x = ofMagnitude negative x.magnitude
  inRange : x.magnitude ≤ infiniteMagnitude
  closest : ∀ y : Binary64, y.magnitude ≤ infiniteMagnitude → |q - x.absValue| ≤ |q - y.absValue|
  tie : ∀ y : Binary64, y.magnitude ≤ infiniteMagnitude → |q - x.absValue| = |q - y.absValue| →
    y.magnitude = x.magnitude ∨ Even x.magnitude

/-! ## Rounding to a natural number -/

/-- The natural number `n` is the one nearest to `v`; of two that are equally near, the even one. -/
structure NearestNat (v : ℚ) (n : ℕ) : Prop where
  closest : ∀ k : ℕ, |v - n| ≤ |v - k|
  tie : ∀ k : ℕ, |v - n| = |v - k| → k = n ∨ Even n

theorem one_le_abs_sub {n k : ℕ} (h : k ≠ n) : (1 : ℚ) ≤ |(n : ℚ) - k| := by
  have hz : (1 : ℤ) ≤ |(n : ℤ) - k| := Int.one_le_abs (by omega)
  exact_mod_cast hz

theorem nearestNat_of_abs_le {v : ℚ} {n : ℕ} (h : |v - n| ≤ 1 / 2)
    (heven : |v - n| = 1 / 2 → Even n) : NearestNat v n := by
  have hfar : ∀ k : ℕ, k ≠ n → 1 - |v - n| ≤ |v - k| := by
    intro k hk
    have htriangle := abs_sub_le (n : ℚ) v k
    rw [abs_sub_comm (n : ℚ) v] at htriangle
    linarith [one_le_abs_sub hk]
  refine ⟨fun k => ?_, fun k htie => ?_⟩
  · by_cases hk : k = n
    · rw [hk]
    · linarith [hfar k hk]
  · by_cases hk : k = n
    · exact .inl hk
    · exact .inr (heven (by linarith [hfar k hk]))

theorem NearestNat.le {v : ℚ} {n k : ℕ} (h : NearestNat v n) (hk : (k : ℚ) ≤ v) : k ≤ n := by
  by_contra hlt
  have hcast : (n : ℚ) + 1 ≤ k := by exact_mod_cast Nat.lt_of_not_le hlt
  have hclose := h.closest k
  rw [abs_of_nonneg (by linarith), abs_of_nonneg (by linarith)] at hclose
  linarith

theorem NearestNat.ge {v : ℚ} {n k : ℕ} (h : NearestNat v n) (hk : v ≤ k) : n ≤ k := by
  by_contra hlt
  have hcast : (k : ℚ) + 1 ≤ n := by exact_mod_cast Nat.lt_of_not_le hlt
  have hclose := h.closest k
  rw [abs_of_nonpos (by linarith), abs_of_nonpos (by linarith)] at hclose
  linarith

/-- **A rounded quotient** is the nearest natural number. -/
theorem roundDiv_nearest (num : ℕ) {den : ℕ} (hden : 0 < den) :
    NearestNat (num / den : ℚ) (roundDiv num den) := by
  have hpos : (0 : ℚ) < den := by exact_mod_cast hden
  have hsum : (num : ℚ) / den = (num / den : ℕ) + (num % den : ℕ) / den := by
    rw [div_eq_iff hpos.ne', add_mul, div_mul_cancel₀ _ hpos.ne']
    exact_mod_cast (Nat.div_add_mod' num den).symm
  have hlt : ((num % den : ℕ) : ℚ) / den < 1 := by
    rw [div_lt_one hpos]
    exact_mod_cast Nat.mod_lt num hden
  have hnonneg : (0 : ℚ) ≤ ((num % den : ℕ) : ℚ) / den := by positivity
  unfold roundDiv
  rw [hsum]
  simp only
  generalize num / den = quotient, num % den = rest at *
  split_ifs with hlow hhigh
  · -- below the middle
    have hrest : (rest : ℚ) / den < 1 / 2 := by
      rw [div_lt_div_iff₀ hpos two_pos]
      exact_mod_cast (by omega : rest * 2 < 1 * den)
    have habs : |((quotient : ℚ) + rest / den) - quotient| = rest / den := by
      rw [add_sub_cancel_left, abs_of_nonneg hnonneg]
    exact nearestNat_of_abs_le (by linarith) fun h => by linarith
  · -- above the middle
    have hrest : 1 / 2 < (rest : ℚ) / den := by
      rw [div_lt_div_iff₀ two_pos hpos]
      exact_mod_cast (by omega : 1 * den < rest * 2)
    have habs : |((quotient : ℚ) + rest / den) - (quotient + 1 : ℕ)| = 1 - rest / den := by
      push_cast
      rw [add_sub_add_left_eq_sub, abs_of_nonpos (by linarith), neg_sub]
    exact nearestNat_of_abs_le (by linarith) fun h => by linarith
  · -- in the middle
    have hrest : (rest : ℚ) / den = 1 / 2 := by
      rw [div_eq_div_iff hpos.ne' two_ne_zero]
      exact_mod_cast (by omega : rest * 2 = 1 * den)
    have habs : |((quotient : ℚ) + rest / den) - (quotient + quotient % 2 : ℕ)| = 1 / 2 := by
      rcases Nat.mod_two_eq_zero_or_one quotient with h | h <;>
        · rw [h, hrest]
          norm_num
    refine nearestNat_of_abs_le habs.le fun _ => ?_
    rw [Nat.even_iff]
    omega

/-! ## The doubles by their magnitude -/

/-- The number of units that a magnitude stands for. -/
def units (m : ℕ) : ℕ :=
  if m / exponentWeight = 0 then m % exponentWeight
  else (exponentWeight + m % exponentWeight) * 2 ^ (m / exponentWeight - 1)

theorem exponentWeight_eq : exponentWeight = 2 ^ 52 := rfl

theorem scaled_eq_units (x : Binary64) : x.scaled = units x.magnitude := by
  simp only [scaled, units, Nat.shiftLeft_eq]

theorem units_of_lt {m : ℕ} (h : m < exponentWeight) : units m = m := by
  rw [units, if_pos (Nat.div_eq_of_lt h), Nat.mod_eq_of_lt h]

theorem units_add_mul {f : ℕ} (hf : f < exponentWeight) (p : ℕ) :
    units (exponentWeight + f + p * exponentWeight) = (exponentWeight + f) * 2 ^ p := by
  have hpos : 0 < exponentWeight := by decide
  have hdiv : (exponentWeight + f + p * exponentWeight) / exponentWeight = p + 1 := by
    rw [Nat.add_mul_div_right _ _ hpos, Nat.add_div_left _ hpos, Nat.div_eq_of_lt hf]
    omega
  have hmod : (exponentWeight + f + p * exponentWeight) % exponentWeight = f := by
    rw [Nat.add_mul_mod_self_right, Nat.add_mod_left, Nat.mod_eq_of_lt hf]
  rw [units, hdiv, hmod, if_neg (Nat.succ_ne_zero p), Nat.add_sub_cancel]

/-- **A significand of 53 digits** at the power `2 ^ p`, the carry into the next power included. -/
theorem units_significand {p s : ℕ} (hs : s ≤ 2 * exponentWeight)
    (h : p = 0 ∨ exponentWeight ≤ s) : units (p * exponentWeight + s) = s * 2 ^ p := by
  by_cases hlow : s < exponentWeight
  · obtain rfl : p = 0 := h.resolve_right (Nat.not_le.mpr hlow)
    rw [Nat.zero_mul, Nat.zero_add, units_of_lt hlow, pow_zero, Nat.mul_one]
  · obtain ⟨f, rfl⟩ := Nat.exists_eq_add_of_le (Nat.not_lt.mp hlow)
    by_cases hf : f < exponentWeight
    · rw [Nat.add_comm, units_add_mul hf]
    · obtain rfl : f = exponentWeight := by omega
      have hcarry : p * exponentWeight + (exponentWeight + exponentWeight) =
          exponentWeight + 0 + (p + 1) * exponentWeight := by ring
      rw [hcarry, units_add_mul (by decide)]
      ring

/-- From `p * 2 ^ 52` on, where the exponent field is above `p`, doubles are multiples of `2 ^ p`.
-/
theorem exists_units_eq_mul {p m : ℕ} (h : (p + 1) * exponentWeight ≤ m) :
    ∃ j, units m = j * 2 ^ p := by
  have hpos : 0 < exponentWeight := by decide
  have hfield : p + 1 ≤ m / exponentWeight := (Nat.le_div_iff_mul_le hpos).mpr h
  obtain ⟨k, hk⟩ := Nat.exists_eq_add_of_le hfield
  refine ⟨(exponentWeight + m % exponentWeight) * 2 ^ k, ?_⟩
  rw [units, if_neg (by omega), hk, show p + 1 + k - 1 = k + p by omega, pow_add, Nat.mul_assoc]

theorem units_lt_units_succ (m : ℕ) : units m < units (m + 1) := by
  have hpos : 0 < exponentWeight := by decide
  by_cases hlow : m < exponentWeight
  · -- up to `2 ^ 52` units the magnitude is the number of units
    have hnext := units_significand (p := 0) (s := m + 1) (by omega) (.inl rfl)
    rw [Nat.zero_mul, Nat.zero_add, pow_zero, Nat.mul_one] at hnext
    rw [hnext, units_of_lt hlow]
    exact Nat.lt_succ_self m
  · -- above, both are significands at one power
    obtain ⟨k, rfl⟩ := Nat.exists_eq_add_of_le (Nat.not_lt.mp hlow)
    have hf : k % exponentWeight < exponentWeight := Nat.mod_lt k hpos
    have hk := Nat.div_add_mod' k exponentWeight
    have hthis : exponentWeight + k =
        k / exponentWeight * exponentWeight + (exponentWeight + k % exponentWeight) := by omega
    have hnext : exponentWeight + k + 1 =
        k / exponentWeight * exponentWeight + (exponentWeight + k % exponentWeight + 1) := by omega
    rw [hnext, hthis, units_significand (by omega) (.inr (by omega)),
      units_significand (by omega) (.inr (by omega))]
    exact Nat.mul_lt_mul_of_pos_right (Nat.lt_succ_self _) (Nat.two_pow_pos _)

theorem strictMono_units : StrictMono units := strictMono_nat_of_lt_succ units_lt_units_succ

/-! ## The nearest magnitude -/

/-- Of the magnitudes up to `bound`, `m` is the one nearest to `u` units; of two that are equally
near, the even one. -/
structure NearestUpTo (bound : ℕ) (u : ℚ) (m : ℕ) : Prop where
  le_bound : m ≤ bound
  closest : ∀ k ≤ bound, |u - units m| ≤ |u - units k|
  tie : ∀ k ≤ bound, |u - units m| = |u - units k| → k = m ∨ Even m

section Nearest

variable {bound m : ℕ} {u : ℚ}

theorem cast_units_lt {k l : ℕ} (h : k < l) : (units k : ℚ) < units l := by
  exact_mod_cast strictMono_units h

theorem cast_units_le {k l : ℕ} (h : k ≤ l) : (units k : ℚ) ≤ units l := by
  exact_mod_cast strictMono_units.monotone h

/-- **There is one nearest magnitude**: between two that are equally near and even lies a nearer
one. -/
theorem NearestUpTo.eq {k : ℕ} (hm : NearestUpTo bound u m) (hk : NearestUpTo bound u k) : m = k := by
  wlog hlt : m < k generalizing m k
  · rcases Nat.lt_or_ge k m with h | h
    · exact (this hk hm h).symm
    · omega
  exfalso
  have hdist : |u - units m| = |u - units k| :=
    le_antisymm (hm.closest k hk.le_bound) (hk.closest m hm.le_bound)
  have hmEven : Even m := (hm.tie k hk.le_bound hdist).resolve_left (by omega)
  have hkEven : Even k := (hk.tie m hm.le_bound hdist.symm).resolve_left (by omega)
  have hgap : m + 1 < k := by
    rw [Nat.even_iff] at hmEven hkEven
    omega
  have hlo := cast_units_lt (Nat.lt_succ_self m)
  have hhi := cast_units_lt hgap
  have hclose := hm.closest (m + 1) (by have := hk.le_bound; omega)
  grind

/-- Magnitudes that are left out do not change the nearest one, unless it is left out itself: then
the greatest one takes its place. -/
theorem NearestUpTo.min {c : ℕ} (h : NearestUpTo bound u m) (hc : c ≤ bound) :
    NearestUpTo c u (min m c) := by
  by_cases hm : m ≤ c
  · rw [min_eq_left hm]
    exact ⟨hm, fun k hk => h.closest k (hk.trans hc), fun k hk => h.tie k (hk.trans hc)⟩
  · have hlt := cast_units_lt (Nat.lt_of_not_le hm)
    have hclose := h.closest c hc
    have habove : (units c : ℚ) < u := by grind
    rw [min_eq_right (Nat.le_of_not_le hm)]
    refine ⟨le_rfl, fun k hk => ?_, fun k hk htie => .inl ?_⟩
    · have hle := cast_units_le hk
      rw [abs_of_pos (by linarith), abs_of_pos (by linarith)]
      linarith
    · have hle := cast_units_le hk
      rw [abs_of_pos (by linarith), abs_of_pos (by linarith)] at htie
      have heq : units c = units k := by exact_mod_cast (by linarith : (units c : ℚ) = units k)
      exact (strictMono_units.injective heq).symm

theorem abs_sub_mul_two_pow (u : ℚ) (j p : ℕ) :
    |u - (j * 2 ^ p : ℕ)| = |u / 2 ^ p - j| * 2 ^ p := by
  have hpow : (0 : ℚ) < 2 ^ p := by positivity
  rw [← abs_of_pos hpow, ← abs_mul, abs_of_pos hpow, sub_mul, div_mul_cancel₀ _ hpow.ne']
  push_cast
  rfl

/-- In the range of a power, a double that is not a multiple of the power is farther than the
nearest multiple. -/
theorem exists_mul_or_farther {p s : ℕ} (hs : NearestNat (u / 2 ^ p) s)
    (hrange : p = 0 ∨ (exponentWeight : ℚ) * 2 ^ p ≤ u) (k : ℕ) :
    (∃ j, units k = j * 2 ^ p) ∨ |u - (s * 2 ^ p : ℕ)| < |u - units k| := by
  by_cases hk : (p + 1) * exponentWeight ≤ k
  · exact .inl (exists_units_eq_mul hk)
  rcases hrange with rfl | hrange
  · exact .inl ⟨units k, by rw [pow_zero, Nat.mul_one]⟩
  -- such a double lies below the range of the power
  have hedge := units_significand (p := p) (s := exponentWeight) (by omega) (.inr le_rfl)
  have hbelow := cast_units_lt (show k < p * exponentWeight + exponentWeight by
    rw [Nat.succ_mul] at hk; omega)
  have hle : ((exponentWeight * 2 ^ p : ℕ) : ℚ) ≤ u := by
    push_cast
    exact hrange
  rw [hedge] at hbelow
  refine .inr ?_
  calc |u - (s * 2 ^ p : ℕ)| = |u / 2 ^ p - s| * 2 ^ p := abs_sub_mul_two_pow u s p
    _ ≤ |u / 2 ^ p - exponentWeight| * 2 ^ p :=
      mul_le_mul_of_nonneg_right (hs.closest exponentWeight) (by positivity)
    _ = |u - (exponentWeight * 2 ^ p : ℕ)| := (abs_sub_mul_two_pow u exponentWeight p).symm
    _ = u - (exponentWeight * 2 ^ p : ℕ) := abs_of_nonneg (by linarith)
    _ < u - units k := by linarith
    _ = |u - units k| := (abs_of_pos (by linarith)).symm

/-- **The nearest magnitude.** A number that is below `2 ^ 53` units, or in the range of the power
`2 ^ p`, is rounded to the significand nearest to it at this power. -/
theorem nearestUpTo_significand {p s : ℕ} (hs : NearestNat (u / 2 ^ p) s)
    (hrange : p = 0 ∨ (exponentWeight : ℚ) * 2 ^ p ≤ u) (hu : u ≤ 2 * exponentWeight * 2 ^ p)
    (hbound : p * exponentWeight + s ≤ bound) :
    NearestUpTo bound u (p * exponentWeight + s) := by
  have hpow : (0 : ℚ) < 2 ^ p := by positivity
  have hhi : s ≤ 2 * exponentWeight := by
    refine hs.ge ?_
    rw [div_le_iff₀ hpow]
    exact_mod_cast hu
  have hlo : p = 0 ∨ exponentWeight ≤ s := by
    refine hrange.imp_right fun h => hs.le ?_
    rwa [le_div_iff₀ hpow]
  have hunits := units_significand hhi hlo
  refine ⟨hbound, fun k _ => ?_, fun k _ htie => ?_⟩
  · rw [hunits]
    rcases exists_mul_or_farther hs hrange k with ⟨j, hj⟩ | h
    · rw [hj, abs_sub_mul_two_pow, abs_sub_mul_two_pow]
      exact mul_le_mul_of_nonneg_right (hs.closest j) hpow.le
    · exact h.le
  · rw [hunits] at htie
    rcases exists_mul_or_farther hs hrange k with ⟨j, hj⟩ | h
    · rw [hj, abs_sub_mul_two_pow, abs_sub_mul_two_pow] at htie
      rcases hs.tie j (mul_right_cancel₀ hpow.ne' htie) with rfl | heven
      · exact .inl (strictMono_units.injective (hj.trans hunits.symm))
      · exact .inr (Even.add (Even.mul_left (by decide) p) heven)
    · exact absurd htie h.ne

theorem nearestUpTo_zero (h0 : 0 ≤ u) (h : u ≤ 1 / 2) : NearestUpTo bound u 0 := by
  have hzero : (units 0 : ℚ) = 0 := by
    rw [units_of_lt (by decide)]
    exact Nat.cast_zero
  refine ⟨Nat.zero_le bound, fun k _ => ?_, fun k _ _ => .inr Even.zero⟩
  rw [hzero, sub_zero, abs_of_nonneg h0]
  rcases Nat.eq_zero_or_pos k with rfl | hk
  · rw [hzero, sub_zero, abs_of_nonneg h0]
  · have hone : (1 : ℚ) ≤ units k := by
      have hlt := strictMono_units hk
      exact_mod_cast Nat.one_le_of_lt hlt
    rw [abs_of_nonpos (by linarith)]
    linarith

theorem nearestUpTo_bound (h : (units bound : ℚ) ≤ u) : NearestUpTo bound u bound := by
  have hdist : ∀ k ≤ bound, |u - units k| = u - units k := fun k hk =>
    abs_of_nonneg (by linarith [cast_units_le hk])
  refine ⟨le_rfl, fun k hk => ?_, fun k hk htie => .inl ?_⟩
  · rw [hdist k hk, hdist bound le_rfl]
    linarith [cast_units_le hk]
  · rw [hdist k hk, hdist bound le_rfl] at htie
    have heq : units k = units bound := by exact_mod_cast (by linarith : (units k : ℚ) = units bound)
    exact strictMono_units.injective heq

end Nearest

theorem nearestUpTo_quotient (n : ℕ) {den : ℕ} (hden : 0 < den) :
    let p := (n / den).log2 - 52
    NearestUpTo infiniteMagnitude (n / den)
      (min (p * exponentWeight + roundDiv n (den * 2 ^ p)) infiniteMagnitude) := by
  intro p
  have hpos : (0 : ℚ) < den := by exact_mod_cast hden
  have hfloor : ((n / den : ℕ) : ℚ) ≤ n / den := Nat.cast_div_le
  have hceil : (n / den : ℚ) < (n / den : ℕ) + 1 := by
    rw [div_lt_iff₀ hpos]
    exact_mod_cast Nat.lt_mul_of_div_lt (Nat.lt_succ_self (n / den)) hden
  have hround : NearestNat (n / den / 2 ^ p : ℚ) (roundDiv n (den * 2 ^ p)) := by
    have h := roundDiv_nearest n (Nat.mul_pos hden (Nat.two_pow_pos p))
    rwa [Nat.cast_mul, Nat.cast_pow, Nat.cast_ofNat, ← div_div] at h
  have hrange : p = 0 ∨ (exponentWeight : ℚ) * 2 ^ p ≤ n / den := by
    by_cases hlog : (n / den).log2 ≤ 52
    · exact .inl (by omega)
    · have hne : n / den ≠ 0 := by
        intro h
        rw [h] at hlog
        exact hlog (by decide)
      have hself := Nat.log2_self_le hne
      rw [show (n / den).log2 = 52 + p by omega, pow_add, ← exponentWeight_eq] at hself
      exact .inr ((by exact_mod_cast hself : (_ : ℚ) ≤ (n / den : ℕ)).trans hfloor)
  have hupper : (n / den : ℚ) ≤ 2 * exponentWeight * 2 ^ p := by
    have hlog : n / den < 2 ^ ((n / den).log2 + 1) := Nat.lt_log2_self
    have hpow : 2 ^ ((n / den).log2 + 1) ≤ 2 ^ (53 + p) :=
      Nat.pow_le_pow_right two_pos (by omega)
    rw [pow_add 2 53, show 2 ^ 53 = 2 * exponentWeight from rfl] at hpow
    have hsucc : n / den + 1 ≤ 2 * exponentWeight * 2 ^ p := by omega
    have hcast : ((n / den : ℕ) : ℚ) + 1 ≤ 2 * exponentWeight * 2 ^ p := by exact_mod_cast hsucc
    linarith
  exact (nearestUpTo_significand hround hrange hupper (le_max_left _ infiniteMagnitude)).min
    (le_max_right _ _)

theorem cast_shiftLeft (n k : ℕ) : ((n <<< k : ℕ) : ℚ) = n * 2 ^ k := by
  rw [Nat.shiftLeft_eq, Nat.cast_mul, Nat.cast_pow, Nat.cast_ofNat]

/-- **The magnitude of a quotient** is the nearest one. -/
theorem nearestUpTo_nearestMagnitude (num : ℕ) {den : ℕ} (hden : 0 < den) :
    NearestUpTo infiniteMagnitude (num / den * 2 ^ 1074) (nearestMagnitude num den) := by
  have hunits : (num / den * 2 ^ 1074 : ℚ) = (num <<< 1074 : ℕ) / den := by
    rw [cast_shiftLeft, div_mul_eq_mul_div]
  rw [hunits]
  unfold nearestMagnitude
  simp only [Nat.shiftLeft_eq den]
  exact nearestUpTo_quotient (num <<< 1074) hden

/-! ## The nearest double -/

section Doubles

variable {x y : Binary64} {negative : Bool} {q : ℚ}

theorem magnitude_ofMagnitude (negative : Bool) {m : ℕ} (h : m ≤ infiniteMagnitude) :
    (ofMagnitude negative m).magnitude = m := by
  have hinf : infiniteMagnitude = 2047 * 2 ^ 52 := rfl
  have hsign : signWeight = 2 ^ 63 := rfl
  rw [magnitude, ofMagnitude, UInt64.toNat_ofNat', hsign]
  cases negative
  · simp only [Bool.false_eq_true, if_false]
    omega
  · simp only [if_true]
    omega

theorem abs_sub_absValue (q : ℚ) (x : Binary64) :
    |q - x.absValue| = |q * 2 ^ 1074 - units x.magnitude| / 2 ^ 1074 := by
  have hpow : (0 : ℚ) < 2 ^ 1074 := by positivity
  have hsub : q - x.absValue = (q * 2 ^ 1074 - units x.magnitude) / 2 ^ 1074 := by
    rw [absValue, scaled_eq_units, sub_div, mul_div_cancel_right₀ _ hpow.ne']
  rw [hsub, abs_div, abs_of_pos hpow]

theorem isNearest_ofMagnitude {m : ℕ} (h : NearestUpTo infiniteMagnitude (q * 2 ^ 1074) m) :
    (ofMagnitude negative m).IsNearest negative q := by
  have hpow : (0 : ℚ) < 2 ^ 1074 := by positivity
  have hm := magnitude_ofMagnitude negative h.le_bound
  refine ⟨by rw [hm], by rw [hm]; exact h.le_bound, fun y hy => ?_, fun y hy htie => ?_⟩
  · rw [abs_sub_absValue, abs_sub_absValue, hm, div_le_div_iff_of_pos_right hpow]
    exact h.closest _ hy
  · rw [abs_sub_absValue, abs_sub_absValue, hm, div_left_inj' hpow.ne'] at htie
    rw [hm]
    exact h.tie _ hy htie

theorem IsNearest.nearestUpTo (h : x.IsNearest negative q) :
    NearestUpTo infiniteMagnitude (q * 2 ^ 1074) x.magnitude := by
  have hpow : (0 : ℚ) < 2 ^ 1074 := by positivity
  refine ⟨h.inRange, fun k hk => ?_, fun k hk htie => ?_⟩
  · have hm := magnitude_ofMagnitude false hk
    have hclose := h.closest (ofMagnitude false k) (hm.symm ▸ hk)
    rwa [abs_sub_absValue, abs_sub_absValue, hm, div_le_div_iff_of_pos_right hpow] at hclose
  · have hm := magnitude_ofMagnitude false hk
    have heven := h.tie (ofMagnitude false k) (hm.symm ▸ hk)
    rw [abs_sub_absValue, abs_sub_absValue, hm, div_left_inj' hpow.ne'] at heven
    exact heven htie

theorem IsNearest.eq (hx : x.IsNearest negative q) (hy : y.IsNearest negative q) : x = y := by
  rw [hx.sign, hy.sign, hx.nearestUpTo.eq hy.nearestUpTo]

theorem isNearest_ofRatio (negative : Bool) (num : ℕ) {den : ℕ} (hden : 0 < den) :
    (ofRatio negative num den).IsNearest negative (num / den) :=
  isNearest_ofMagnitude (nearestUpTo_nearestMagnitude num hden)

theorem units_infiniteMagnitude : units infiniteMagnitude = 2 * exponentWeight * 2 ^ 2045 := by
  have h : infiniteMagnitude = exponentWeight + 0 + 2046 * exponentWeight := rfl
  rw [h, units_add_mul (by decide), Nat.add_zero, pow_succ', ← Nat.mul_assoc,
    Nat.mul_comm exponentWeight 2]

theorem units_greatest :
    units (infiniteMagnitude - 1) = (2 * exponentWeight - 1) * 2 ^ 2045 := by
  have h : infiniteMagnitude - 1 =
      exponentWeight + (exponentWeight - 1) + 2045 * exponentWeight := rfl
  rw [h, units_add_mul (by decide), ← Nat.add_sub_assoc (by decide), ← Nat.two_mul]

theorem isNearest_infinity (h : 2 ^ 1024 ≤ q) : (infinity negative).IsNearest negative q := by
  refine isNearest_ofMagnitude (nearestUpTo_bound ?_)
  have hpow : (units infiniteMagnitude : ℚ) = 2 ^ 1024 * 2 ^ 1074 := by
    rw [units_infiniteMagnitude, show 2 * exponentWeight = 2 ^ 53 from rfl, ← pow_add,
      Nat.cast_pow, Nat.cast_ofNat, ← pow_add]
  rw [hpow]
  exact mul_le_mul_of_nonneg_right h (by positivity)

theorem isNearest_zero (h0 : 0 ≤ q) (h : q * 2 ^ 1075 ≤ 1) : (zero negative).IsNearest negative q := by
  refine isNearest_ofMagnitude (nearestUpTo_zero (by positivity) ?_)
  rw [pow_succ, ← mul_assoc] at h
  exact (le_div_iff₀ two_pos).mpr h

theorem two_pow_le_ten_pow {k : ℕ} (h : 310 ≤ k) : (2 : ℚ) ^ 1024 ≤ 10 ^ k := by
  calc (2 : ℚ) ^ 1024 ≤ 2 ^ (205 * 5) := pow_le_pow_right₀ one_le_two (by norm_num)
    _ = (2 ^ 205) ^ 5 := pow_mul 2 205 5
    _ ≤ (10 ^ 62) ^ 5 := pow_le_pow_left₀ (by positivity) (by norm_num) 5
    _ = 10 ^ (62 * 5) := (pow_mul 10 62 5).symm
    _ ≤ 10 ^ k := pow_le_pow_right₀ (by norm_num) (by omega)

theorem mul_two_pow_le_ten_pow {digits k : ℕ} (h : digits.log2 + 1 + 1075 ≤ 3 * k) :
    digits * 2 ^ 1075 ≤ 10 ^ k := by
  calc digits * 2 ^ 1075 ≤ 2 ^ (digits.log2 + 1) * 2 ^ 1075 :=
        Nat.mul_le_mul_right _ Nat.lt_log2_self.le
    _ = 2 ^ (digits.log2 + 1 + 1075) := (pow_add 2 _ _).symm
    _ ≤ 2 ^ (3 * k) := Nat.pow_le_pow_right two_pos h
    _ = (2 ^ 3) ^ k := pow_mul 2 3 k
    _ ≤ 10 ^ k := Nat.pow_le_pow_left (by norm_num) k

/-- **The double of a decimal** is the nearest one, also where its size alone decides. -/
theorem isNearest_ofDecimal (negative : Bool) (digits : ℕ) (exponent : ℤ) :
    (ofDecimal negative digits exponent).IsNearest negative (digits * 10 ^ exponent) := by
  unfold ofDecimal
  split_ifs with hzero
  · rw [hzero, Nat.cast_zero, zero_mul]
    exact isNearest_zero le_rfl (by rw [zero_mul]; exact zero_le_one)
  · have hone : (1 : ℚ) ≤ digits := by exact_mod_cast Nat.one_le_iff_ne_zero.mpr hzero
    cases exponent with
    | ofNat k =>
      simp only [Int.ofNat_eq_natCast, zpow_natCast]
      split_ifs with hk
      · -- a decimal above `10 ^ 310`
        refine isNearest_infinity ((two_pow_le_ten_pow (by omega)).trans ?_)
        exact le_mul_of_one_le_left (by positivity) hone
      · have h := isNearest_ofRatio negative (digits * 10 ^ k) one_pos
        rwa [Nat.cast_one, div_one, Nat.cast_mul, Nat.cast_pow, Nat.cast_ofNat] at h
    | negSucc k =>
      have hq : (digits * 10 ^ (Int.negSucc k) : ℚ) = digits / (10 ^ (k + 1) : ℕ) := by
        rw [zpow_negSucc, Nat.cast_pow, Nat.cast_ofNat, div_eq_mul_inv]
      rw [hq]
      simp only
      split_ifs with hk
      · -- a decimal below half the least double
        refine isNearest_zero (by positivity) ?_
        have hsmall : digits * 2 ^ 1075 ≤ 10 ^ (k + 1) := mul_two_pow_le_ten_pow (by omega)
        rw [div_mul_eq_mul_div, div_le_one (by positivity)]
        exact_mod_cast hsmall
      · have hpos : 0 < 10 ^ (k + 1) := by positivity
        exact isNearest_ofRatio negative digits hpos

/-- Half a unit above the greatest double is the middle between it and `2 ^ 1024`. -/
theorem two_mul_overflow : (2 : ℚ) * ((2 ^ 1024 - 2 ^ 970) * 2 ^ 1074) =
    units (infiniteMagnitude - 1) + units infiniteMagnitude := by
  have htop : (2 : ℚ) ^ 1024 * 2 ^ 1074 = 2 ^ 53 * 2 ^ 2045 := by rw [← pow_add, ← pow_add]
  have hhalf : (2 : ℚ) * (2 ^ 970 * 2 ^ 1074) = 2 ^ 2045 := by rw [← pow_add, ← pow_succ']
  have hgreatest : ((2 * exponentWeight - 1 : ℕ) : ℚ) = 2 ^ 53 - 1 := by norm_num [exponentWeight_eq]
  have hinfinite : ((2 * exponentWeight : ℕ) : ℚ) = 2 ^ 53 := by norm_num [exponentWeight_eq]
  rw [units_greatest, units_infiniteMagnitude, Nat.cast_mul, Nat.cast_mul, hgreatest, hinfinite,
    Nat.cast_pow, Nat.cast_ofNat, sub_mul, mul_sub, htop, hhalf]
  generalize (2 : ℚ) ^ 2045 = unit
  ring

/-- **What overflows**: from half a unit above the greatest double on, infinity is the nearest. -/
theorem IsNearest.isFinite_iff (h : x.IsNearest negative q) :
    x.isFinite = true ↔ q < 2 ^ 1024 - 2 ^ 970 := by
  obtain ⟨hle, hclosest, htie⟩ := h.nearestUpTo
  have hodd : ¬ Even (infiniteMagnitude - 1) := by decide
  have hpow : (0 : ℚ) < 2 ^ 1074 := by positivity
  have hmiddle := two_mul_overflow
  rw [isFinite, decide_eq_true_eq, ← mul_lt_mul_iff_left₀ hpow]
  generalize q * 2 ^ 1074 = u at *
  generalize (2 ^ 1024 - 2 ^ 970 : ℚ) * 2 ^ 1074 = middle at *
  have hstep := cast_units_lt (show infiniteMagnitude - 1 < infiniteMagnitude by decide)
  constructor
  · intro hlt
    by_contra hge
    have hbelow := cast_units_le (show x.magnitude ≤ infiniteMagnitude - 1 by omega)
    have hclose := hclosest infiniteMagnitude le_rfl
    -- infinity is not farther, so it is as near, and the greatest double is odd
    have heq : |u - units x.magnitude| = |u - units infiniteMagnitude| := by grind
    have heven := (htie infiniteMagnitude le_rfl heq).resolve_left (by omega)
    have hgreatest : (units x.magnitude : ℚ) = units (infiniteMagnitude - 1) := by grind
    have hm : x.magnitude = infiniteMagnitude - 1 :=
      strictMono_units.injective (by exact_mod_cast hgreatest)
    exact hodd (hm ▸ heven)
  · intro hlt
    by_contra hge
    have hm : x.magnitude = infiniteMagnitude := by omega
    have hclose := hclosest (infiniteMagnitude - 1) (Nat.sub_le _ _)
    rw [hm] at hclose
    grind

end Doubles

end CandleArchive.Number.Binary64
