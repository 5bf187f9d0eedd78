import CandleArchive.Json.Token
import CandleArchive.Number.Binary64
import CandleArchive.Number.Integer

/-!
# JSON numbers — the value of a number in a provider's answer

A number without fraction and exponent that fits in 64 bits is an integer; any other is a double.
The double is found in two roundings: the leading digits that fit in 64 bits are rounded first, and
the result is then multiplied or divided by a rounded power of ten. So it may miss the nearest
double by a unit when many digits are written.

* `leadingDigits`: the digits that fit in 64 bits;
* `scaleMagnitude?`: the second rounding;
* `NumberText.value?`: the value.
-/

namespace CandleArchive.Json

open Number (Binary64 maxInt64 maxUInt64)

/-- The value of a number: an integer of at most 64 bits, or a double. -/
inductive Numeral where
  | integer (value : Int)
  | real (value : Binary64)
  deriving DecidableEq, Repr

/-- The number that `digits` continue from `value`, as long as it fits in 64 bits, and the digits
that do not fit. -/
def leadingDigits (value : Nat) : List Nat → Nat × List Nat
  | [] => (value, [])
  | d :: ds =>
    if value * 10 + d ≤ maxUInt64 then leadingDigits (value * 10 + d) ds else (value, d :: ds)

/-- The magnitude of `10 ^ k`, rounded. -/
def powerMagnitude (k : Nat) : Nat := Binary64.nearestMagnitude (Nat.pow 10 k) 1

/-- The magnitude times `10 ^ exponent`, or nothing when it overflows. Below the least power that
has a magnitude the quotient is taken in several steps, until it is zero. -/
def scaleMagnitude? (magnitude : Nat) (exponent : Int) : Option Nat :=
  if magnitude = 0 then some 0
  else if 308 < exponent then none
  else if 0 ≤ exponent then
    let product := Binary64.mulMagnitude magnitude (powerMagnitude exponent.toNat)
    if product < Binary64.infiniteMagnitude then some product else none
  else if -308 ≤ exponent then
    some (Binary64.divMagnitude magnitude (powerMagnitude (-exponent).toNat))
  else scaleMagnitude? (Binary64.divMagnitude magnitude (powerMagnitude 308)) (exponent + 308)
  termination_by (-exponent).toNat

/-- The double that a number with a sign, an integer of at most 64 bits and a power of ten
denotes. -/
def real? (negative : Bool) (significand : Nat) (exponent : Int) : Option Binary64 :=
  (scaleMagnitude? (Binary64.nearestMagnitude significand 1) exponent).map
    (Binary64.ofMagnitude negative)

/-- The value of a number, or nothing when it overflows. Digits of the whole part that do not fit
raise the exponent by one each, and digits of the fraction that do not fit are dropped. -/
def NumberText.value? (n : NumberText) : Option Numeral :=
  let (whole, dropped) := leadingDigits 0 n.whole
  match n.fraction, n.exponent with
  | none, none =>
    if dropped ≠ [] then (real? n.negative whole dropped.length).map .real
    else if ¬ n.negative then some (.integer whole)
    else if 0 < whole ∧ whole ≤ maxInt64 + 1 then some (.integer (-whole))
    else (real? true whole 0).map .real
  | fraction, exponent =>
    let digits := fraction.getD []
    let (significand, rest) := leadingDigits whole digits
    let places := digits.length - rest.length
    (real? n.negative significand (exponent.getD 0 + dropped.length - places)).map .real

end CandleArchive.Json
