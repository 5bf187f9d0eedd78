import CandleArchive.Number.Binary64
import CandleArchive.Number.Integer

/-!
# Decimals — reading a floating-point number from a text

A price text has an optional sign and then either digits with an optional point and an optional
exponent, or one of the words for infinity and NaN in any case. The value is the double nearest to
the decimal.

* `Decimal`: a sign, digits and a power of ten;
* `decimal?`: the grammar of digits, point and exponent;
* `binary64?`: the number a text denotes.
-/

namespace CandleArchive.Number

/-- The number `± digits * 10 ^ exponent` as it was written. -/
structure Decimal where
  negative : Bool
  digits : Nat
  exponent : Int
  deriving DecidableEq, Repr

/-- The double nearest to the decimal. -/
def Decimal.toBinary64 (x : Decimal) : Binary64 :=
  .ofDecimal x.negative x.digits x.exponent

/-- The character is an ASCII digit. -/
def isDigit (c : Char) : Bool := (digit? c).isSome

/-- The value of a list of digits; other characters count as zero. -/
def digitsValue (cs : List Char) : Nat :=
  cs.foldl (fun value c => value * 10 + (digit? c).getD 0) 0

/-- A sign, if one is written, and what follows it. -/
def splitSign : List Char → Bool × List Char
  | '-' :: cs => (true, cs)
  | '+' :: cs => (false, cs)
  | cs => (false, cs)

/-- The exponent at the end of a decimal: nothing, or the letter e with a whole number. -/
def exponent? : List Char → Option Int
  | [] => some 0
  | c :: cs =>
    let (negative, digits) := splitSign cs
    if (c = 'e' ∨ c = 'E') ∧ digits ≠ [] ∧ digits.all isDigit then
      some (if negative then -(digitsValue digits : Int) else digitsValue digits)
    else none

/-- The digits after the point, if there is a point, and what follows them. -/
def splitFraction : List Char → List Char × List Char
  | '.' :: cs => cs.span isDigit
  | cs => ([], cs)

/-- A decimal: digits with an optional point among or around them, then an optional exponent. -/
def decimal? (negative : Bool) (cs : List Char) : Option Decimal :=
  let (whole, rest) := cs.span isDigit
  let (fraction, rest) := splitFraction rest
  if whole = [] ∧ fraction = [] then none
  else (exponent? rest).map fun e =>
    { negative, digits := digitsValue (whole ++ fraction), exponent := e - fraction.length }

/-- The floating-point number that the characters denote. -/
def binary64OfChars? (cs : List Char) : Option Binary64 :=
  let (negative, rest) := splitSign cs
  let word := rest.map Char.toLower
  if word = "inf".toList ∨ word = "infinity".toList then some (.infinity negative)
  else if word = "nan".toList then some .nan
  else (decimal? negative rest).map Decimal.toBinary64

/-- The floating-point number that the text denotes. -/
def binary64? (s : String) : Option Binary64 :=
  binary64OfChars? s.toList

end CandleArchive.Number
