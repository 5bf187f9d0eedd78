import CandleArchive.Proofs.Number.Integer
import CandleArchive.Proofs.Number.Rounding
import CandleArchive.Proofs.Text.Case
import Mathlib.Data.List.TakeDrop
import Mathlib.Data.List.TakeWhile

/-!
# Decimal texts — which texts are floating-point numbers

The grammar of a decimal, part by part, beside the reader. No part can be mistaken for the next one, so
a text is a decimal in one way only, and it denotes one double.

* `IsSign`, `IsExponent`, `IsMantissa`, `IsMagnitude`, `IsDecimal`: the parts of a decimal and its
  value;
* `IsFloat`: a text and the double that it denotes, the words for infinity and NaN included;
* `exponent?_eq_some`, `decimal?_eq_some`, **`binary64?_eq_some`**: what is read;
* `IsDecimal.exists_isNearest`, `IsFloat.eq`: every decimal denotes a double, and a text only one.
-/

namespace CandleArchive.Number

/-- An optional sign. -/
inductive IsSign : List Char → Bool → Prop
  | absent : IsSign [] false
  | plus : IsSign ['+'] false
  | minus : IsSign ['-'] true

/-- Nothing, or the letter e and a whole number. -/
inductive IsExponent : List Char → ℤ → Prop
  | absent : IsExponent [] 0
  | present {letter : Char} {sign digits : List Char} {negative : Bool} {n : ℕ}
      (isLetter : letter = 'e' ∨ letter = 'E') (isSign : IsSign sign negative)
      (isDigits : IsDigits digits n) :
      IsExponent (letter :: (sign ++ digits)) (if negative then -(n : ℤ) else n)

/-- Digits with an optional point among or around them: the text, its digits, and how many of them
follow the point. -/
inductive IsMantissa : List Char → List Char → ℕ → Prop
  | whole (digits : List Char) : IsMantissa digits digits 0
  | point (whole fraction : List Char) :
      IsMantissa (whole ++ '.' :: fraction) (whole ++ fraction) fraction.length

/-- A decimal without a sign: its digits and its power of ten. -/
inductive IsMagnitude : List Char → ℕ → ℤ → Prop
  | intro {text digits exponent : List Char} {places n : ℕ} {e : ℤ}
      (mantissa : IsMantissa text digits places) (isDigits : IsDigits digits n)
      (isExponent : IsExponent exponent e) : IsMagnitude (text ++ exponent) n (e - places)

/-- A decimal: its sign and its absolute value. -/
inductive IsDecimal : List Char → Bool → ℚ → Prop
  | intro {sign body : List Char} {negative : Bool} {n : ℕ} {e : ℤ} (isSign : IsSign sign negative)
      (magnitude : IsMagnitude body n e) : IsDecimal (sign ++ body) negative (n * 10 ^ e)

/-- The characters spell the word, in any case. -/
def IsWord (word : String) (cs : List Char) : Prop := cs.map Char.toLower = word.toList

instance (word : String) (cs : List Char) : Decidable (IsWord word cs) :=
  inferInstanceAs (Decidable (_ = _))

/-- The characters denote the double. -/
inductive IsFloat : List Char → Binary64 → Prop
  | decimal {cs : List Char} {negative : Bool} {q : ℚ} {x : Binary64}
      (isDecimal : IsDecimal cs negative q) (nearest : x.IsNearest negative q) : IsFloat cs x
  | infinity {sign word : List Char} {negative : Bool} (isSign : IsSign sign negative)
      (isWord : IsWord "inf" word ∨ IsWord "infinity" word) :
      IsFloat (sign ++ word) (.infinity negative)
  | nan {sign word : List Char} {negative : Bool} (isSign : IsSign sign negative)
      (isWord : IsWord "nan" word) : IsFloat (sign ++ word) .nan

/-! ## Signs and digits -/

/-- The characters do not start with a sign. -/
def Unsigned (cs : List Char) : Prop := ∀ c ∈ cs.head?, c ≠ '+' ∧ c ≠ '-'

theorem unsigned_cons {c : Char} {cs : List Char} (hplus : c ≠ '+') (hminus : c ≠ '-') :
    Unsigned (c :: cs) := by
  intro d hd
  obtain rfl := Option.some.inj hd
  exact ⟨hplus, hminus⟩

theorem splitSign_append {sign rest : List Char} {negative : Bool} (h : IsSign sign negative)
    (hrest : Unsigned rest) : splitSign (sign ++ rest) = (negative, rest) := by
  cases h with
  | plus => rfl
  | minus => rfl
  | absent =>
    cases rest with
    | nil => rfl
    | cons c rest =>
      obtain ⟨hplus, hminus⟩ := hrest c rfl
      rw [List.nil_append, splitSign]
      · simpa using hminus
      · simpa using hplus

theorem exists_sign (cs : List Char) :
    ∃ sign, IsSign sign (splitSign cs).1 ∧ cs = sign ++ (splitSign cs).2 := by
  unfold splitSign
  split
  · exact ⟨['-'], .minus, rfl⟩
  · exact ⟨['+'], .plus, rfl⟩
  · exact ⟨[], .absent, rfl⟩

theorem IsDigits.unsigned {digits : List Char} {n : ℕ} (h : IsDigits digits n) : Unsigned digits := by
  intro c hc
  have hdigit := h.digits c (List.mem_of_mem_head? hc)
  constructor <;>
    · rintro rfl
      exact absurd hdigit (by decide)

theorem span_digits {digits rest : List Char} (hd : ∀ c ∈ digits, c.isDigit = true)
    (hr : ∀ c ∈ rest.head?, c.isDigit = false) : (digits ++ rest).span isDigit = (digits, rest) := by
  have hd' : ∀ c ∈ digits, isDigit c = true := fun c hc => (isDigit_eq c).trans (hd c hc)
  rw [List.span_eq_takeWhile_dropWhile, List.takeWhile_append_of_pos hd',
    List.dropWhile_append_of_pos hd']
  cases rest with
  | nil => simp
  | cons c rest =>
    have hc : ¬ isDigit c = true := by simp [isDigit_eq, hr c rfl]
    rw [List.takeWhile_cons_of_neg hc, List.dropWhile_cons_of_neg hc, List.append_nil]

theorem exists_span (cs : List Char) :
    cs = (cs.span isDigit).1 ++ (cs.span isDigit).2 ∧ ∀ c ∈ (cs.span isDigit).1, c.isDigit = true := by
  rw [List.span_eq_takeWhile_dropWhile]
  exact ⟨List.takeWhile_append_dropWhile.symm,
    fun c hc => (isDigit_eq c).symm.trans (List.mem_takeWhile_imp hc)⟩

/-! ## Exponents -/

theorem exponent?_eq_some {cs : List Char} {e : ℤ} : exponent? cs = some e ↔ IsExponent cs e := by
  constructor
  · intro h
    cases cs with
    | nil =>
      obtain rfl := Option.some.inj h
      exact .absent
    | cons c cs =>
      obtain ⟨sign, hsign, hcs⟩ := exists_sign cs
      simp only [exponent?, Option.ite_none_right_eq_some] at h
      obtain ⟨⟨hc, hne, hd⟩, h⟩ := h
      have hd' : ∀ d ∈ (splitSign cs).2, d.isDigit = true := fun d hmem =>
        (isDigit_eq d).symm.trans (List.all_eq_true.mp hd d hmem)
      rw [digitsValue_eq hd'] at h
      obtain rfl := Option.some.inj h
      have hexponent := IsExponent.present hc hsign ⟨hne, hd', rfl⟩
      rwa [← hcs] at hexponent
  · intro h
    cases h with
    | absent => rfl
    | present hc hsign hdigits =>
      have hall : (List.all _ isDigit) = true :=
        List.all_eq_true.mpr fun d hd => (isDigit_eq d).trans (hdigits.digits d hd)
      simp only [exponent?, splitSign_append hsign hdigits.unsigned]
      rw [if_pos ⟨hc, hdigits.ne_nil, hall⟩, digitsValue_eq hdigits.digits, hdigits.value]

theorem IsExponent.eq_of_mem_head? {cs : List Char} {e : ℤ} (h : IsExponent cs e) :
    ∀ c ∈ cs.head?, c = 'e' ∨ c = 'E' := by
  cases h with
  | absent => simp
  | present hc => simpa using hc

/-! ## Decimals -/

theorem splitFraction_of_ne {cs : List Char} (h : ∀ c ∈ cs.head?, c ≠ '.') :
    splitFraction cs = ([], cs) := by
  cases cs with
  | nil => rfl
  | cons c cs =>
    rw [splitFraction]
    simpa using h c rfl

theorem exists_mantissa (cs : List Char) :
    let whole := cs.span isDigit
    let fraction := splitFraction whole.2
    ∃ text, cs = text ++ fraction.2 ∧
      IsMantissa text (whole.1 ++ fraction.1) fraction.1.length ∧
      ∀ c ∈ whole.1 ++ fraction.1, c.isDigit = true := by
  intro whole fraction
  obtain ⟨hcs, hwhole⟩ := exists_span cs
  by_cases hpoint : ∃ rest, whole.2 = '.' :: rest
  · obtain ⟨rest, hrest⟩ := hpoint
    obtain ⟨hsplit, hfraction⟩ := exists_span rest
    have heq : fraction = rest.span isDigit := by
      show splitFraction whole.2 = _
      rw [hrest]
      rfl
    rw [heq]
    refine ⟨whole.1 ++ '.' :: (rest.span isDigit).1, ?_, .point _ _, ?_⟩
    · rw [List.append_assoc, List.cons_append, ← hsplit, ← hrest]
      exact hcs
    · intro c hc
      exact (List.mem_append.mp hc).elim (hwhole c) (hfraction c)
  · have heq : fraction = ([], whole.2) := splitFraction_of_ne fun c hc hdot => by
      obtain ⟨rest, hrest⟩ := List.head?_eq_some_iff.mp hc
      exact hpoint ⟨rest, hdot ▸ hrest⟩
    rw [heq]
    refine ⟨whole.1, hcs, ?_, ?_⟩
    · rw [List.append_nil]
      exact .whole _
    · rw [List.append_nil]
      exact hwhole

theorem IsMantissa.split {text digits rest : List Char} {places : ℕ}
    (h : IsMantissa text digits places) (hd : ∀ c ∈ digits, c.isDigit = true)
    (hrest : ∀ c ∈ rest.head?, c = 'e' ∨ c = 'E') :
    ∃ whole fraction, digits = whole ++ fraction ∧ places = fraction.length ∧
      (text ++ rest).span isDigit = (whole, ((text ++ rest).span isDigit).2) ∧
      splitFraction ((text ++ rest).span isDigit).2 = (fraction, rest) := by
  have hno : ∀ c ∈ rest.head?, c.isDigit = false := by
    intro c hc
    rcases hrest c hc with rfl | rfl <;> decide
  cases h with
  | whole =>
    refine ⟨_, [], (List.append_nil _).symm, rfl, ?_, ?_⟩
    · rw [span_digits hd hno]
    · rw [span_digits hd hno]
      refine splitFraction_of_ne fun c hc => ?_
      rcases hrest c hc with rfl | rfl <;> decide
  | point whole fraction =>
    have hspan : (whole ++ '.' :: fraction ++ rest).span isDigit =
        (whole, '.' :: (fraction ++ rest)) := by
      rw [List.append_assoc, List.cons_append]
      refine span_digits (fun c hc => hd c (List.mem_append_left _ hc)) fun c hc => ?_
      obtain rfl := Option.some.inj hc
      decide
    refine ⟨whole, fraction, rfl, rfl, ?_, ?_⟩
    · rw [hspan]
    · rw [hspan]
      exact span_digits (fun c hc => hd c (List.mem_append_right _ hc)) hno

theorem decimal?_of_isMagnitude {cs : List Char} {n : ℕ} {e : ℤ} (negative : Bool)
    (h : IsMagnitude cs n e) : decimal? negative cs = some ⟨negative, n, e⟩ := by
  cases h with
  | intro hmantissa hdigits he =>
    obtain ⟨whole, fraction, rfl, rfl, hspan, hfraction⟩ :=
      hmantissa.split hdigits.digits he.eq_of_mem_head?
    have hne : ¬ (whole = [] ∧ fraction = []) := fun h => hdigits.ne_nil (by rw [h.1, h.2]; rfl)
    simp only [decimal?]
    rw [hspan]
    simp only [hfraction, if_neg hne, exponent?_eq_some.mpr he, Option.map_some,
      digitsValue_eq hdigits.digits, hdigits.value]

/-- **A decimal** is read as it is written. -/
theorem decimal?_eq_some {negative : Bool} {cs : List Char} {x : Decimal} :
    decimal? negative cs = some x ↔ x.negative = negative ∧ IsMagnitude cs x.digits x.exponent := by
  constructor
  · intro h
    obtain ⟨text, hcs, hmantissa, hd⟩ := exists_mantissa cs
    simp only [decimal?] at h
    split_ifs at h with hnone
    obtain ⟨e, he, rfl⟩ := Option.map_eq_some_iff.mp h
    have hdigits : IsDigits _ _ := ⟨fun hnil => hnone (List.append_eq_nil_iff.mp hnil), hd, rfl⟩
    have hmagnitude := IsMagnitude.intro hmantissa hdigits (exponent?_eq_some.mp he)
    rw [← hcs] at hmagnitude
    rw [digitsValue_eq hd]
    exact ⟨rfl, hmagnitude⟩
  · rintro ⟨rfl, h⟩
    exact decimal?_of_isMagnitude x.negative h

theorem IsMagnitude.exists_cons {cs : List Char} {n : ℕ} {e : ℤ} (h : IsMagnitude cs n e) :
    ∃ c rest, cs = c :: rest ∧ (c.isDigit = true ∨ c = '.') := by
  cases h with
  | intro hmantissa hdigits he =>
    cases hmantissa with
    | whole ds =>
      obtain ⟨c, ds, rfl⟩ := List.exists_cons_of_ne_nil hdigits.ne_nil
      exact ⟨c, _, rfl, .inl (hdigits.digits c List.mem_cons_self)⟩
    | point whole fraction =>
      cases whole with
      | nil => exact ⟨'.', _, rfl, .inr rfl⟩
      | cons c whole => exact ⟨c, _, rfl, .inl (hdigits.digits c List.mem_cons_self)⟩

/-! ## Floating-point numbers -/

theorem not_isDigit_of_range : ∀ n ∈ List.range 26,
    ¬ ((Char.ofNat (65 + n)).isDigit = true ∨ Char.ofNat (65 + n) = '.') := by
  decide

theorem toLower_of_isDigit {c : Char} (h : c.isDigit = true ∨ c = '.') : c.toLower = c := by
  refine Text.toLower_of_not_isUpper fun hupper => ?_
  obtain ⟨n, hn, rfl⟩ := Text.exists_of_isUpper hupper
  exact absurd h (not_isDigit_of_range n hn)

theorem IsMagnitude.unsigned {cs : List Char} {n : ℕ} {e : ℤ} (h : IsMagnitude cs n e) :
    Unsigned cs := by
  obtain ⟨c, rest, rfl, hc⟩ := h.exists_cons
  apply unsigned_cons <;>
    · rintro rfl
      exact absurd hc (by decide)

theorem IsMagnitude.not_isWord {cs : List Char} {n : ℕ} {e : ℤ} (h : IsMagnitude cs n e)
    {word : String} {letter : Char} (hword : word.toList.head? = some letter)
    (hletter : ¬ (letter.isDigit = true ∨ letter = '.')) : ¬ IsWord word cs := by
  obtain ⟨c, rest, rfl, hc⟩ := h.exists_cons
  intro hw
  rw [IsWord, List.map_cons, toLower_of_isDigit hc] at hw
  rw [← hw] at hword
  exact hletter (Option.some.inj hword ▸ hc)

theorem IsWord.unsigned {word : String} {cs : List Char} (h : IsWord word cs)
    (hword : Unsigned word.toList) : Unsigned cs := by
  intro c hc
  have hlower : c.toLower ∈ word.toList.head? := by
    rw [← h, List.head?_map, Option.mem_def.mp hc]
    rfl
  obtain ⟨hplus, hminus⟩ := hword _ hlower
  constructor
  · rintro rfl
    exact hplus rfl
  · rintro rfl
    exact hminus rfl

theorem binary64OfChars?_of_isFloat {cs : List Char} {x : Binary64} (h : IsFloat cs x) :
    binary64OfChars? cs = some x := by
  cases h with
  | infinity hsign hword =>
    have hi : Unsigned "inf".toList ∧ Unsigned "infinity".toList :=
      ⟨unsigned_cons (by decide) (by decide), unsigned_cons (by decide) (by decide)⟩
    have hunsigned := hword.elim (·.unsigned hi.1) (·.unsigned hi.2)
    simp only [binary64OfChars?, splitSign_append hsign hunsigned]
    exact if_pos hword
  | nan hsign hword =>
    have hunsigned := hword.unsigned (unsigned_cons (by decide) (by decide))
    simp only [binary64OfChars?, splitSign_append hsign hunsigned]
    rw [hword, if_neg (by decide), if_pos rfl]
  | @decimal _ negative q _ hdecimal hnearest =>
    cases hdecimal with
    | @intro sign body _ n e hsign hmagnitude =>
      have hinf : ¬ body.map Char.toLower = "inf".toList := hmagnitude.not_isWord rfl (by decide)
      have hinfinity : ¬ body.map Char.toLower = "infinity".toList :=
        hmagnitude.not_isWord rfl (by decide)
      have hnan : ¬ body.map Char.toLower = "nan".toList := hmagnitude.not_isWord rfl (by decide)
      have hread : decimal? negative body = some ⟨negative, n, e⟩ :=
        decimal?_eq_some.mpr ⟨rfl, hmagnitude⟩
      simp only [binary64OfChars?, splitSign_append hsign hmagnitude.unsigned]
      rw [if_neg (not_or.mpr ⟨hinf, hinfinity⟩), if_neg hnan, hread, Option.map_some]
      exact congrArg some ((Binary64.isNearest_ofDecimal negative n e).eq hnearest)

/-- **A floating-point number** is read as it is written. -/
theorem binary64OfChars?_eq_some {cs : List Char} {x : Binary64} :
    binary64OfChars? cs = some x ↔ IsFloat cs x := by
  refine ⟨fun h => ?_, binary64OfChars?_of_isFloat⟩
  obtain ⟨sign, hsign, hcs⟩ := exists_sign cs
  rw [hcs]
  simp only [binary64OfChars?] at h
  split_ifs at h with hinf hnan
  · obtain rfl := Option.some.inj h
    exact .infinity hsign hinf
  · obtain rfl := Option.some.inj h
    exact .nan hsign hnan
  · obtain ⟨d, hd, rfl⟩ := Option.map_eq_some_iff.mp h
    obtain ⟨hnegative, hmagnitude⟩ := decimal?_eq_some.mp hd
    refine .decimal (.intro hsign hmagnitude) ?_
    rw [← hnegative]
    exact Binary64.isNearest_ofDecimal _ _ _

theorem binary64?_eq_some {s : String} {x : Binary64} :
    binary64? s = some x ↔ IsFloat s.toList x :=
  binary64OfChars?_eq_some

theorem IsDecimal.exists_isNearest {cs : List Char} {negative : Bool} {q : ℚ}
    (h : IsDecimal cs negative q) : ∃ x : Binary64, x.IsNearest negative q := by
  cases h with
  | intro => exact ⟨_, Binary64.isNearest_ofDecimal _ _ _⟩

theorem IsFloat.eq {cs : List Char} {x y : Binary64} (hx : IsFloat cs x) (hy : IsFloat cs y) :
    x = y :=
  Option.some.inj ((binary64OfChars?_eq_some.mpr hx).symm.trans (binary64OfChars?_eq_some.mpr hy))

end CandleArchive.Number
