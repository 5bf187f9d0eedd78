import CandleArchive.Candle
import CandleArchive.Proofs.Number.Decimal
import CandleArchive.Proofs.Text.Trim
import Mathlib.Tactic.IntervalCases

/-!
# Candles of rows — which rows are accepted

A row is read element by element, and each of its first six elements is taken or refused by itself.

* `IsMillis`, `IsOpenTime`, `IsNumber`, `IsPrice`: the elements that are taken, and their values;
* `IsCandle`: the rows that are taken;
* `openTime?_eq_some`, `finite?_eq_some`, **`candle?_eq_some`**: what is read;
* `NoInteger`, `NotFinite`: elements that are refused;
* `candle?_take`, `PaddedElement`: what does not matter;
* **`row_accepted_exactly`**: every row.
-/

namespace CandleArchive

open Json (Value)
open Number (Binary64 IsInteger IsFloat IsDecimal IsSign IsWord)

/-- The element is an integer, or a text of one with blanks around it. -/
inductive IsMillis : Value → ℤ → Prop
  | integer (n : ℤ) : IsMillis (.integer n) n
  | text {s : String} {n : ℤ} (isInteger : IsInteger (Text.trim s).toList n) : IsMillis (.text s) n

/-- The element is an integer of 64 bits and a millisecond of the calendar. -/
structure IsOpenTime (v : Value) (n : ℤ) : Prop where
  millis : IsMillis v n
  in64Bits : -2 ^ 63 ≤ n ∧ n < 2 ^ 63
  inCalendar : -8334601228800000 ≤ n ∧ n ≤ 8210266876799999

/-- The element is a number, or a text of one with blanks around it. An integer counts as the nearest
double. -/
inductive IsNumber : Value → Binary64 → Prop
  | integer {n : ℤ} {x : Binary64} (nearest : x.IsNearest (decide (n < 0)) n.natAbs) :
      IsNumber (.integer n) x
  | real (x : Binary64) : IsNumber (.real x) x
  | text {s : String} {x : Binary64} (isFloat : IsFloat (Text.trim s).toList x) :
      IsNumber (.text s) x

/-- The element is a finite number. -/
structure IsPrice (v : Value) (x : Binary64) : Prop where
  number : IsNumber v x
  finite : x.isFinite = true

/-- The first six elements of the row are the open time, the prices and the volume of the candle. -/
inductive IsCandle : Row → Candle → Prop
  | intro {t o h l c v : Value} {trailer : List Value} {candle : Candle}
      (openTime : IsOpenTime t candle.openTime) (openPrice : IsPrice o candle.openPrice)
      (highPrice : IsPrice h candle.highPrice) (lowPrice : IsPrice l candle.lowPrice)
      (closePrice : IsPrice c candle.closePrice) (volume : IsPrice v candle.volume) :
      IsCandle (t :: o :: h :: l :: c :: v :: trailer) candle

/-! ## Elements -/

theorem millis?_eq_some {v : Value} {n : ℤ} (hn : -2 ^ 63 ≤ n) :
    millis? v = some n ↔ IsMillis v n ∧ n < 2 ^ 63 := by
  have hmax : (Number.maxInt64 : ℤ) = 2 ^ 63 - 1 := rfl
  constructor
  · intro h
    unfold millis? at h
    split at h
    · split_ifs at h with hle
      obtain rfl := Option.some.inj h
      exact ⟨.integer _, by omega⟩
    · obtain ⟨hinteger, -, hlt⟩ := Number.int64?_eq_some.mp h
      exact ⟨.text hinteger, hlt⟩
    · cases h
  · rintro ⟨h, hlt⟩
    cases h with
    | integer => exact if_pos (by omega)
    | text h => exact Number.int64?_eq_some.mpr ⟨h, hn, hlt⟩

theorem openTime?_eq_some {v : Value} {n : ℤ} : openTime? v = some n ↔ IsOpenTime v n := by
  have hrange : (calendarRange.1 ≤ n ∧ n ≤ calendarRange.2) ↔
      (-8334601228800000 ≤ n ∧ n ≤ 8210266876799999) := Iff.rfl
  rw [openTime?, Option.filter_eq_some_iff, decide_eq_true_eq, hrange]
  constructor
  · rintro ⟨h, hcalendar⟩
    obtain ⟨hmillis, hlt⟩ := (millis?_eq_some (by omega)).mp h
    exact ⟨hmillis, ⟨by omega, hlt⟩, hcalendar⟩
  · rintro ⟨hmillis, ⟨hle, hlt⟩, hcalendar⟩
    exact ⟨(millis?_eq_some hle).mpr ⟨hmillis, hlt⟩, hcalendar⟩

theorem isNearest_binary64OfInt (n : ℤ) :
    (binary64OfInt n).IsNearest (decide (n < 0)) n.natAbs := by
  have h := Binary64.isNearest_ofRatio (decide (n < 0)) n.natAbs one_pos
  rwa [Nat.cast_one, div_one] at h

theorem number?_eq_some {v : Value} {x : Binary64} : number? v = some x ↔ IsNumber v x := by
  constructor
  · intro h
    unfold number? at h
    split at h
    · obtain rfl := Option.some.inj h
      exact .integer (isNearest_binary64OfInt _)
    · obtain rfl := Option.some.inj h
      exact .real _
    · exact .text (Number.binary64?_eq_some.mp h)
    · cases h
  · intro h
    cases h with
    | integer h => exact congrArg some ((isNearest_binary64OfInt _).eq h)
    | real => rfl
    | text h => exact Number.binary64?_eq_some.mpr h

theorem finite?_eq_some {v : Value} {x : Binary64} : finite? v = some x ↔ IsPrice v x := by
  rw [finite?, Option.filter_eq_some_iff, number?_eq_some]
  exact ⟨fun h => ⟨h.1, h.2⟩, fun h => ⟨h.number, h.finite⟩⟩

/-! ## Rows -/

/-- **The candle of a row** is that of its first six elements. -/
theorem candle?_eq_some {row : Row} {candle : Candle} :
    row.candle? = some candle ↔ IsCandle row candle := by
  simp only [Row.candle?, Option.bind_eq_bind, Option.bind_eq_some_iff, Option.pure_def,
    openTime?_eq_some, finite?_eq_some]
  constructor
  · rintro ⟨t, ⟨v₀, h₀, ht⟩, o, ⟨v₁, h₁, ho⟩, h, ⟨v₂, h₂, hh⟩, l, ⟨v₃, h₃, hl⟩, c, ⟨v₄, h₄, hc⟩,
      v, ⟨v₅, h₅, hv⟩, hcandle⟩
    obtain rfl := Option.some.inj hcandle
    have hrow : row = v₀ :: v₁ :: v₂ :: v₃ :: v₄ :: v₅ :: row.drop 6 := by
      obtain ⟨hlt, -⟩ := List.getElem?_eq_some_iff.mp h₅
      match row, hlt with
      | _ :: _ :: _ :: _ :: _ :: _ :: trailer, _ => simp_all
    rw [hrow]
    exact .intro ht ho hh hl hc hv
  · rintro ⟨ht, ho, hh, hl, hc, hv⟩
    exact ⟨_, ⟨_, rfl, ht⟩, _, ⟨_, rfl, ho⟩, _, ⟨_, rfl, hh⟩, _, ⟨_, rfl, hl⟩, _, ⟨_, rfl, hc⟩,
      _, ⟨_, rfl, hv⟩, rfl⟩

theorem candle?_take (row : Row) : Row.candle? (row.take 6) = row.candle? := by
  simp [Row.candle?]

/-- The element, or its text with blanks around it. -/
inductive PaddedElement : Value → Value → Prop
  | same (v : Value) : PaddedElement v v
  | text {s t : String} (padded : Text.Padded s t) : PaddedElement (.text s) (.text t)

theorem PaddedElement.openTime? {v w : Value} (h : PaddedElement v w) : openTime? w = openTime? v := by
  cases h with
  | same => rfl
  | text h => simp only [CandleArchive.openTime?, millis?, Text.trim_of_padded h]

theorem PaddedElement.finite? {v w : Value} (h : PaddedElement v w) : finite? w = finite? v := by
  cases h with
  | same => rfl
  | text h => simp only [CandleArchive.finite?, number?, Text.trim_of_padded h]

theorem getElem?_bind_of_forall₂ {α : Type} {row other : Row} {read : Value → Option α}
    (h : List.Forall₂ PaddedElement row other)
    (hread : ∀ v w, PaddedElement v w → read w = read v) (i : ℕ) :
    other[i]? >>= read = row[i]? >>= read := by
  induction h generalizing i with
  | nil => rfl
  | cons hvw _ ih =>
    cases i with
    | zero => exact hread _ _ hvw
    | succ i => exact ih i

theorem candle?_of_padded {row other : Row} (h : List.Forall₂ PaddedElement row other) :
    other.candle? = row.candle? := by
  have ht := getElem?_bind_of_forall₂ h fun _ _ => PaddedElement.openTime?
  have hp := getElem?_bind_of_forall₂ h fun _ _ => PaddedElement.finite?
  simp only [Row.candle?, ht, hp]

/-! ## What is refused -/

/-- The element is no integer of 64 bits and no text: a number with a fraction or an exponent, an
integer above `2 ^ 63 - 1`, or no number at all. -/
inductive NoInteger : Value → Prop
  | real (x : Binary64) : NoInteger (.real x)
  | above {n : ℤ} (h : 2 ^ 63 ≤ n) : NoInteger (.integer n)
  | null : NoInteger .null
  | bool (b : Bool) : NoInteger (.bool b)
  | list (items : List Value) : NoInteger (.list items)
  | object (members : List (String × Value)) : NoInteger (.object members)

/-- The characters spell infinity or NaN, or a decimal from half a unit above the greatest double. -/
inductive NotFinite : List Char → Prop
  | infinity {sign word : List Char} {negative : Bool} (isSign : IsSign sign negative)
      (isWord : IsWord "inf" word ∨ IsWord "infinity" word) : NotFinite (sign ++ word)
  | nan {sign word : List Char} {negative : Bool} (isSign : IsSign sign negative)
      (isWord : IsWord "nan" word) : NotFinite (sign ++ word)
  | overflow {cs : List Char} {negative : Bool} {q : ℚ} (isDecimal : IsDecimal cs negative q)
      (large : 2 ^ 1024 - 2 ^ 970 ≤ q) : NotFinite cs

theorem NoInteger.not_isOpenTime {v : Value} {n : ℤ} (h : NoInteger v) : ¬ IsOpenTime v n := by
  rintro ⟨hmillis, ⟨-, hlt⟩, -⟩
  cases h <;> cases hmillis
  omega

theorem isFinite_of_notFinite {cs : List Char} {x : Binary64} (h : NotFinite cs) (hx : IsFloat cs x) :
    x.isFinite = false := by
  cases h with
  | @infinity sign word negative hsign hword =>
    rw [hx.eq (.infinity hsign hword)]
    cases negative <;> decide
  | nan hsign hword =>
    rw [hx.eq (.nan hsign hword)]
    decide
  | overflow hdecimal hlarge =>
    obtain ⟨y, hy⟩ := hdecimal.exists_isNearest
    rw [hx.eq (.decimal hdecimal hy), ← Bool.not_eq_true, hy.isFinite_iff]
    exact not_lt.mpr hlarge

theorem NotFinite.not_isPrice {s : String} {x : Binary64} (h : NotFinite (Text.trim s).toList) :
    ¬ IsPrice (.text s) x := by
  rintro ⟨hnumber, hfinite⟩
  cases hnumber with
  | text hx =>
    exact absurd ((isFinite_of_notFinite h hx).symm.trans hfinite) Bool.false_ne_true

theorem IsCandle.exists_openTime {row : Row} {candle : Candle} (h : IsCandle row candle) :
    ∃ v n, row.head? = some v ∧ IsOpenTime v n := by
  cases h with
  | intro ht => exact ⟨_, _, rfl, ht⟩

theorem IsCandle.exists_price {row : Row} {candle : Candle} (h : IsCandle row candle) {i : ℕ}
    (hlo : 1 ≤ i) (hhi : i ≤ 5) : ∃ v x, row[i]? = some v ∧ IsPrice v x := by
  cases h with
  | intro _ ho hh hl hc hv =>
    interval_cases i
    · exact ⟨_, _, rfl, ho⟩
    · exact ⟨_, _, rfl, hh⟩
    · exact ⟨_, _, rfl, hl⟩
    · exact ⟨_, _, rfl, hc⟩
    · exact ⟨_, _, rfl, hv⟩

/-- **A row is accepted exactly** when its first six elements are an open time of the calendar and
five finite numbers, and these are the candle. -/
theorem row_accepted_exactly (row : Row) :
    (∀ candle, row.candle? = some candle ↔ IsCandle row candle) ∧
      (∀ v, row.head? = some v → NoInteger v → row.candle? = none) ∧
      (∀ i s, 1 ≤ i → i ≤ 5 → row[i]? = some (.text s) → NotFinite (Text.trim s).toList →
        row.candle? = none) ∧
      (∀ other : Row, other.take 6 = row.take 6 → other.candle? = row.candle?) ∧
      ∀ other : Row, List.Forall₂ PaddedElement row other → other.candle? = row.candle? := by
  have hnone : (∀ candle, ¬ IsCandle row candle) → row.candle? = none := by
    intro h
    rw [Option.eq_none_iff_forall_ne_some]
    exact fun candle hcandle => h candle (candle?_eq_some.mp hcandle)
  refine ⟨fun candle => candle?_eq_some, fun v hv hno => ?_, fun i s hlo hhi hs hno => ?_,
    fun other h => ?_, fun other => candle?_of_padded⟩
  · refine hnone fun candle hcandle => ?_
    obtain ⟨w, n, hw, htime⟩ := hcandle.exists_openTime
    obtain rfl := Option.some.inj (hv.symm.trans hw)
    exact hno.not_isOpenTime htime
  · refine hnone fun candle hcandle => ?_
    obtain ⟨w, x, hw, hprice⟩ := hcandle.exists_price hlo hhi
    obtain rfl := Option.some.inj (hs.symm.trans hw)
    exact hno.not_isPrice hprice
  · rw [← candle?_take other, h, candle?_take]

/-- A row with all kinds of numbers, and one element more. -/
def SmallRow.row : Row :=
  [.text "-1", .integer 105, .text "1.5e2", .real (.ofRatio false 1 2), .text "+.5", .text "7.", .null]

/-- The same row with blanks around texts. -/
def SmallRow.padded : Row :=
  [.text " -1\t", .integer 105, .text "1.5e2", .real (.ofRatio false 1 2), .text "\u00a0+.5",
    .text "7.", .null]

/-- The row with another volume. -/
def SmallRow.withVolume (s : String) : Row := SmallRow.row.set 5 (.text s)

theorem SmallRow.forall₂_padded : List.Forall₂ PaddedElement SmallRow.row SmallRow.padded :=
  .cons (.text ⟨" ", "\t", by decide, by decide, rfl⟩) <|
  .cons (.same _) <| .cons (.same _) <| .cons (.same _) <|
  .cons (.text ⟨"\u00a0", "", by decide, by decide, rfl⟩) <| .cons (.same _) <| .cons (.same _) .nil

theorem SmallRow.notFinite_word : NotFinite (Text.trim "-InFinity").toList := by
  have htext : (Text.trim "-InFinity").toList = ['-'] ++ "InFinity".toList := by decide +kernel
  rw [htext]
  exact .infinity .minus (.inr (by decide +kernel))

theorem SmallRow.notFinite_decimal : NotFinite (Text.trim "1e400").toList := by
  have htext : (Text.trim "1e400").toList = [] ++ (['1'] ++ 'e' :: ([] ++ ['4', '0', '0'])) := by
    decide +kernel
  have hone : Number.IsDigits ['1'] 1 := ⟨by simp, List.all_eq_true.mp rfl, by decide⟩
  have hexponent : Number.IsDigits ['4', '0', '0'] 400 :=
    ⟨by simp, List.all_eq_true.mp rfl, by decide⟩
  rw [htext]
  refine .overflow (.intro .absent (.intro (.whole _) hone (.present (.inl rfl) .absent hexponent))) ?_
  have hten := Binary64.two_pow_le_ten_pow (show 310 ≤ 400 by decide)
  have hpos : (0 : ℚ) < 2 ^ 970 := pow_pos two_pos _
  rw [if_neg Bool.false_ne_true, Nat.cast_zero, sub_zero, zpow_natCast, Nat.cast_one, one_mul]
  exact (sub_le_self _ hpos.le).trans hten

/-- A row of all kinds is taken, with blanks and without its trailer too; it is refused with an open
time that has a fraction, and with a word or a decimal that overflows. -/
theorem row_accepted_exactly_small :
    (∃ candle, IsCandle SmallRow.row candle ∧ SmallRow.padded.candle? = some candle ∧
        Row.candle? (SmallRow.row.take 6) = some candle) ∧
      Row.candle? (.real (.ofRatio false 1 2) :: SmallRow.row.tail) = none ∧
      (SmallRow.withVolume "-InFinity").candle? = none ∧
      (SmallRow.withVolume "1e400").candle? = none := by
  obtain ⟨candle, hcandle⟩ : ∃ candle, SmallRow.row.candle? = some candle :=
    Option.isSome_iff_exists.mp (by decide +kernel)
  obtain ⟨haccepted, -, -, htrailer, hpadded⟩ := row_accepted_exactly SmallRow.row
  refine ⟨⟨candle, (haccepted candle).mp hcandle, ?_, ?_⟩, ?_, ?_, ?_⟩
  · exact (hpadded _ SmallRow.forall₂_padded).trans hcandle
  · exact (htrailer _ (List.take_take ..)).trans hcandle
  · exact (row_accepted_exactly _).2.1 _ rfl (.real _)
  · exact (row_accepted_exactly _).2.2.1 5 _ (by decide) le_rfl rfl SmallRow.notFinite_word
  · exact (row_accepted_exactly _).2.2.1 5 _ (by decide) le_rfl rfl SmallRow.notFinite_decimal

end CandleArchive
