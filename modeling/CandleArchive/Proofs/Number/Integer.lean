import CandleArchive.Number.Decimal
import Mathlib.Data.Nat.Digits.Defs
import Mathlib.Tactic.Ring

/-!
# Integer texts — which texts are whole numbers

The digits are read from the left and the reading stops at the first digit that leads beyond the
bound. A longer text never denotes less, so this refuses exactly the numbers that do not fit.

* `decimalValue`, `IsDigits`: the number that digits denote;
* `IsNatural`, `IsInteger`: texts with an optional sign;
* `digitsWithin_eq_ok`, **`naturalOfChars_eq_ok`**: numbers up to a bound;
* **`int64OfChars?_eq_some`**: numbers of 64 bits with a sign.
-/

namespace CandleArchive.Number

/-- The number that digits denote, the last one being the lowest. -/
def decimalValue (cs : List Char) : ℕ :=
  Nat.ofDigits 10 (cs.reverse.map fun c => c.toNat - '0'.toNat)

/-- The characters are ASCII digits, at least one, and denote `n`. -/
structure IsDigits (cs : List Char) (n : ℕ) : Prop where
  ne_nil : cs ≠ []
  digits : ∀ c ∈ cs, c.isDigit = true
  value : decimalValue cs = n

/-- The characters are digits that denote `n`, after a plus sign if one is written. -/
inductive IsNatural : List Char → ℕ → Prop
  | plain {cs : List Char} {n : ℕ} (digits : IsDigits cs n) : IsNatural cs n
  | plus {cs : List Char} {n : ℕ} (digits : IsDigits cs n) : IsNatural ('+' :: cs) n

/-- The characters are digits after an optional sign and denote `n`. -/
inductive IsInteger : List Char → ℤ → Prop
  | natural {cs : List Char} {n : ℕ} (text : IsNatural cs n) : IsInteger cs n
  | minus {cs : List Char} {n : ℕ} (digits : IsDigits cs n) : IsInteger ('-' :: cs) (-n)

/-! ## Digits -/

theorem digit?_of_isDigit {c : Char} (h : c.isDigit = true) :
    digit? c = some (c.toNat - '0'.toNat) := by
  simp only [Char.isDigit, Bool.and_eq_true, decide_eq_true_eq] at h
  rw [digit?, if_pos]
  exact h

theorem digit?_of_not_isDigit {c : Char} (h : ¬ c.isDigit = true) : digit? c = none := by
  simp only [Char.isDigit, Bool.and_eq_true, decide_eq_true_eq] at h
  rw [digit?, if_neg]
  exact h

theorem isDigit_eq (c : Char) : isDigit c = c.isDigit := by
  by_cases h : c.isDigit = true
  · rw [isDigit, digit?_of_isDigit h, h]
    rfl
  · rw [isDigit, digit?_of_not_isDigit h]
    simpa using h

theorem decimalValue_cons (c : Char) (cs : List Char) :
    decimalValue (c :: cs) = (c.toNat - '0'.toNat) * 10 ^ cs.length + decimalValue cs := by
  rw [decimalValue, List.reverse_cons, List.map_append, Nat.ofDigits_append, List.length_map,
    List.length_reverse, decimalValue]
  simp only [List.map_cons, List.map_nil, Nat.ofDigits_singleton]
  ring

theorem foldl_digits {cs : List Char} (h : ∀ c ∈ cs, c.isDigit = true) (value : ℕ) :
    cs.foldl (fun value c => value * 10 + (digit? c).getD 0) value =
      value * 10 ^ cs.length + decimalValue cs := by
  induction cs generalizing value with
  | nil => simp [decimalValue]
  | cons c cs ih =>
    rw [List.foldl_cons, ih fun d hd => h d (List.mem_cons_of_mem c hd),
      digit?_of_isDigit (h c List.mem_cons_self), decimalValue_cons, List.length_cons,
      Option.getD_some]
    ring

theorem digitsValue_eq {cs : List Char} (h : ∀ c ∈ cs, c.isDigit = true) :
    digitsValue cs = decimalValue cs := by
  rw [digitsValue, foldl_digits h, Nat.zero_mul, Nat.zero_add]

theorem IsDigits.ne_cons_of_not_isDigit {c : Char} {cs : List Char} {n : ℕ} (hc : c.isDigit = false) :
    ¬ IsDigits (c :: cs) n := by
  intro h
  have := h.digits c List.mem_cons_self
  rw [hc] at this
  contradiction

/-! ## Numbers up to a bound -/

/-- **Digits after a value** within the bound: they are read if what they denote is within it too.
-/
theorem digitsWithin_eq_ok {bound value n : ℕ} (hv : value ≤ bound) {cs : List Char} :
    digitsWithin bound value cs = .ok n ↔ (∀ c ∈ cs, c.isDigit = true) ∧
      value * 10 ^ cs.length + decimalValue cs = n ∧ n ≤ bound := by
  induction cs generalizing value with
  | nil =>
    simp only [digitsWithin, Except.ok.injEq, List.not_mem_nil, false_imp_iff, implies_true,
      List.length_nil, pow_zero, mul_one, true_and, decimalValue, List.reverse_nil, List.map_nil,
      Nat.ofDigits_nil, add_zero]
    constructor
    · rintro rfl
      exact ⟨rfl, hv⟩
    · exact fun h => h.1
  | cons c cs ih =>
    rw [digitsWithin]
    by_cases hc : c.isDigit = true
    · rw [digit?_of_isDigit hc]
      simp only [List.forall_mem_cons, hc, true_and, decimalValue_cons, List.length_cons]
      have hsplit : value * 10 ^ (cs.length + 1) +
          ((c.toNat - '0'.toNat) * 10 ^ cs.length + decimalValue cs) =
          (value * 10 + (c.toNat - '0'.toNat)) * 10 ^ cs.length + decimalValue cs := by ring
      rw [hsplit]
      split_ifs with hle
      · exact ih hle
      · -- the digits so far are too many, and no further digit makes the number smaller
        simp only [false_iff, not_and]
        rintro - rfl hn
        have hone : 1 ≤ 10 ^ cs.length := Nat.one_le_pow _ _ (by omega)
        have hgrow := Nat.le_mul_of_pos_right (value * 10 + (c.toNat - '0'.toNat)) hone
        omega
    · rw [digit?_of_not_isDigit hc]
      simp [hc]

theorem digitsWithin_zero_eq_ok {bound n : ℕ} {cs : List Char} (hne : cs ≠ []) :
    digitsWithin bound 0 cs = .ok n ↔ IsDigits cs n ∧ n ≤ bound := by
  rw [digitsWithin_eq_ok (Nat.zero_le bound), Nat.zero_mul, Nat.zero_add]
  constructor
  · rintro ⟨hd, hv, hn⟩
    exact ⟨⟨hne, hd, hv⟩, hn⟩
  · rintro ⟨h, hn⟩
    exact ⟨h.digits, h.value, hn⟩

theorem naturalOfChars_eq_ok {bound n : ℕ} {cs : List Char} :
    naturalOfChars bound cs = .ok n ↔ IsNatural cs n ∧ n ≤ bound := by
  have hplus : ∀ {tail : List Char}, ¬ IsDigits ('+' :: tail) n :=
    IsDigits.ne_cons_of_not_isDigit (by decide)
  unfold naturalOfChars
  split
  case h_1 =>
    simp only [reduceCtorEq, false_iff, not_and]
    rintro (h | h)
    exact absurd rfl h.ne_nil
  case h_2 c cs =>
    rw [digitsWithin_zero_eq_ok (List.cons_ne_nil c cs)]
    refine and_congr_left fun _ => ⟨.plus, ?_⟩
    rintro (h | h)
    · exact absurd h hplus
    · exact h
  case h_3 hne hnot =>
    rw [digitsWithin_zero_eq_ok hne]
    refine and_congr_left fun _ => ⟨.plain, ?_⟩
    rintro (h | @⟨tail, _, h⟩)
    · exact h
    · obtain ⟨d, ds, rfl⟩ := List.exists_cons_of_ne_nil h.ne_nil
      exact absurd rfl (hnot d ds)

theorem natural_eq_ok {bound n : ℕ} {s : String} :
    natural bound s = .ok n ↔ IsNatural s.toList n ∧ n ≤ bound :=
  naturalOfChars_eq_ok

/-! ## Numbers with a sign -/

theorem map_toOption_eq_some {ε : Type} {r : Except ε ℕ} {f : ℤ → ℤ} {n : ℤ} :
    Option.map f (do let m ← r.toOption; pure (m : ℤ)) = some n ↔ ∃ m, r = .ok m ∧ f m = n := by
  cases r <;> simp [Except.toOption]

/-- **A 64-bit number with a sign** is read if it is one and fits. -/
theorem int64OfChars?_eq_some {cs : List Char} {n : ℤ} :
    int64OfChars? cs = some n ↔ IsInteger cs n ∧ -2 ^ 63 ≤ n ∧ n < 2 ^ 63 := by
  have hmax : maxInt64 = 2 ^ 63 - 1 := rfl
  have hminus : ∀ {tail : List Char} {m : ℕ}, ¬ IsDigits ('-' :: tail) m :=
    IsDigits.ne_cons_of_not_isDigit (by decide)
  unfold int64OfChars?
  split
  case h_1 c cs =>
    rw [map_toOption_eq_some]
    simp only [digitsWithin_zero_eq_ok (List.cons_ne_nil c cs)]
    constructor
    · rintro ⟨m, ⟨hm, hle⟩, rfl⟩
      exact ⟨.minus hm, by omega, by omega⟩
    · rintro ⟨hn, hlo, -⟩
      cases hn with
      | natural h =>
        cases h with
        | plain h => exact absurd h hminus
      | minus h => exact ⟨_, ⟨h, by omega⟩, rfl⟩
  case h_2 hnot =>
    rw [map_toOption_eq_some]
    simp only [naturalOfChars_eq_ok]
    constructor
    · rintro ⟨m, ⟨hm, hle⟩, rfl⟩
      exact ⟨.natural hm, by omega, by omega⟩
    · rintro ⟨hn, -, hhi⟩
      cases hn with
      | natural h => exact ⟨_, ⟨h, by omega⟩, rfl⟩
      | minus h =>
        obtain ⟨d, ds, rfl⟩ := List.exists_cons_of_ne_nil h.ne_nil
        exact absurd rfl (hnot d ds)

theorem int64?_eq_some {s : String} {n : ℤ} :
    int64? s = some n ↔ IsInteger s.toList n ∧ -2 ^ 63 ≤ n ∧ n < 2 ^ 63 :=
  int64OfChars?_eq_some

end CandleArchive.Number
