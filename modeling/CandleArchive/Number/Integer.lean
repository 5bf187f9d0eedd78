/-!
# Integers — reading a whole number from a text

A setting or an open time is written with an optional sign and ASCII digits, nothing else. The
digits are read from the left, so of two faults the first one counts.

* `IntegerError`: why a text is refused;
* `natural`: a number without a minus sign, up to a bound;
* `int64?`: a number with either sign that fits in 64 bits.
-/

namespace CandleArchive.Number

/-- Why a text is not a whole number of the wanted size. -/
inductive IntegerError where
  | empty
  | invalidDigit
  | tooLarge
  deriving DecidableEq, Repr

/-- The wording of the error. -/
def IntegerError.message : IntegerError → String
  | .empty => "cannot parse integer from empty string"
  | .invalidDigit => "invalid digit found in string"
  | .tooLarge => "number too large to fit in target type"

/-- The value of an ASCII digit. -/
def digit? (c : Char) : Option Nat :=
  if '0' ≤ c ∧ c ≤ '9' then some (c.toNat - '0'.toNat) else none

/-- The value of the digits `cs` after digits of value `value`, as long as it is within `bound`. -/
def digitsWithin (bound value : Nat) : List Char → Except IntegerError Nat
  | [] => .ok value
  | c :: cs =>
    match digit? c with
    | none => .error .invalidDigit
    | some d =>
      if value * 10 + d ≤ bound then digitsWithin bound (value * 10 + d) cs
      else .error .tooLarge

/-- A number of at most `bound`: digits, after a plus sign if one is written. -/
def naturalOfChars (bound : Nat) : List Char → Except IntegerError Nat
  | [] => .error .empty
  | '+' :: c :: cs => digitsWithin bound 0 (c :: cs)
  | cs => digitsWithin bound 0 cs

/-- The whole number of at most `bound` that the text denotes. -/
def natural (bound : Nat) (s : String) : Except IntegerError Nat :=
  naturalOfChars bound s.toList

/-- The greatest 64-bit number with a sign. -/
def maxInt64 : Nat := 0x7FFF_FFFF_FFFF_FFFF

/-- The greatest 64-bit number without a sign. -/
def maxUInt64 : Nat := 0xFFFF_FFFF_FFFF_FFFF

/-- The greatest 32-bit number without a sign. -/
def maxUInt32 : Nat := 0xFFFF_FFFF

/-- The 64-bit number with a sign that the characters denote. -/
def int64OfChars? : List Char → Option Int
  | '-' :: c :: cs => (digitsWithin (maxInt64 + 1) 0 (c :: cs)).toOption.map fun n => -(n : Int)
  | cs => (naturalOfChars maxInt64 cs).toOption.map fun n => (n : Int)

/-- The 64-bit number with a sign that the text denotes. -/
def int64? (s : String) : Option Int :=
  int64OfChars? s.toList

end CandleArchive.Number
