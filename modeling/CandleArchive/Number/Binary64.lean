/-!
# Binary64 — double-precision numbers, exactly

A price is a 64-bit floating-point number. A finite one stands for `± n / 2 ^ 1074` with a natural
`n`, so rounding a quotient needs natural numbers only: with `p` the least power that leaves 53
digits, the significand is the rounded quotient by `2 ^ p`, and the encoding of the magnitude is
`p * 2 ^ 52` plus the significand, carries included.

* `Binary64`: a number by its encoding; `isFinite`, `scaled`, `ofMagnitude`;
* `roundDiv`: a quotient rounded to the nearest natural number, halves to the even one;
* `nearestMagnitude`, `ofRatio`, `ofDecimal`: the number nearest to a quotient or a decimal.
-/

namespace CandleArchive.Number

/-- A double-precision number, by its sign bit, exponent field and fraction field. -/
structure Binary64 where
  bits : UInt64
  deriving DecidableEq, Repr

namespace Binary64

/-- The weight of the sign bit, `2 ^ 63`. -/
def signWeight : Nat := 1 <<< 63

/-- The weight of the lowest bit of the exponent field, `2 ^ 52`. -/
def exponentWeight : Nat := 1 <<< 52

/-- The encoding without the sign bit. -/
def magnitude (x : Binary64) : Nat := x.bits.toNat % signWeight

/-- The encoding of infinity without the sign bit; the finite magnitudes lie below. -/
def infiniteMagnitude : Nat := 2047 * exponentWeight

/-- The number is neither an infinity nor a NaN. -/
def isFinite (x : Binary64) : Bool := x.magnitude < infiniteMagnitude

/-- The number with the given sign and magnitude. -/
def ofMagnitude (negative : Bool) (magnitude : Nat) : Binary64 :=
  ⟨UInt64.ofNat ((if negative then signWeight else 0) + magnitude)⟩

/-- The absolute value of a finite number, in units of `1 / 2 ^ 1074`. -/
def scaled (x : Binary64) : Nat :=
  let exponent := x.magnitude / exponentWeight
  let fraction := x.magnitude % exponentWeight
  if exponent = 0 then fraction else (exponentWeight + fraction) <<< (exponent - 1)

/-- Zero. -/
def zero (negative : Bool) : Binary64 := ofMagnitude negative 0

/-- Infinity. -/
def infinity (negative : Bool) : Binary64 := ofMagnitude negative infiniteMagnitude

/-- A NaN. -/
def nan : Binary64 := ofMagnitude false (infiniteMagnitude + 1 <<< 51)

/-- The number, a zero without its sign. -/
def unsignedZero (x : Binary64) : Binary64 :=
  if x.magnitude = 0 then zero false else x

/-- The natural number nearest to `num / den`; a tie goes to the even one. -/
def roundDiv (num den : Nat) : Nat :=
  let quotient := num / den
  let rest := num % den
  if 2 * rest < den then quotient
  else if den < 2 * rest then quotient + 1
  else quotient + quotient % 2

/-- The magnitude nearest to `num / den`, infinity from half a unit above the greatest one. -/
def nearestMagnitude (num den : Nat) : Nat :=
  let units := num <<< 1074
  let power := (units / den).log2 - 52
  min (power * exponentWeight + roundDiv units (den <<< power)) infiniteMagnitude

/-- The number nearest to `± num / den`. -/
def ofRatio (negative : Bool) (num den : Nat) : Binary64 :=
  ofMagnitude negative (nearestMagnitude num den)

/-- The number nearest to `± digits * 10 ^ exponent`. Above `10 ^ 310` and below `2 ^ -1076` the
answer is known without computing the power. -/
def ofDecimal (negative : Bool) (digits : Nat) (exponent : Int) : Binary64 :=
  if digits = 0 then zero negative
  else match exponent with
    | .ofNat k =>
      if 310 ≤ k then infinity negative else ofRatio negative (digits * Nat.pow 10 k) 1
    | .negSucc k =>
      if digits.log2 + 1077 < 3 * (k + 1) then zero negative
      else ofRatio negative digits (Nat.pow 10 (k + 1))

/-- The product of two finite magnitudes, rounded. -/
def mulMagnitude (x y : Nat) : Nat :=
  nearestMagnitude ((ofMagnitude false x).scaled * (ofMagnitude false y).scaled) (1 <<< 2148)

/-- The quotient of two finite magnitudes, rounded. -/
def divMagnitude (x y : Nat) : Nat :=
  nearestMagnitude (ofMagnitude false x).scaled (ofMagnitude false y).scaled

end Binary64

end CandleArchive.Number
