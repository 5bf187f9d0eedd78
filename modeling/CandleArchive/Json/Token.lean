import CandleArchive.Text.Utf8

/-!
# JSON tokens — the words of a provider's answer

An answer is a sequence of bytes. Reading it into tokens settles the spelling of every word, but
neither decodes the texts nor evaluates the numbers: in a part of the answer that nobody asks for, a
text need not be valid Unicode and a number may have any size.

* `Piece`, `NumberText`, `Token`: a word as it was written;
* `textRest`, `number?`, `word?`: the words that start with a quote, a digit or a letter;
* `tokens?`: all words of an answer.
-/

namespace CandleArchive.Json

/-- A piece of a text: a byte, or a 16-bit unit written as four hexadecimal digits. -/
inductive Piece where
  | byte (value : UInt8)
  | unit (value : Nat)
  deriving DecidableEq, Repr

/-- A number as it was written, by the values of its digits. -/
structure NumberText where
  negative : Bool
  whole : List Nat
  fraction : Option (List Nat)
  exponent : Option Int
  deriving DecidableEq, Repr

/-- A word of JSON. -/
inductive Token where
  | openList
  | closeList
  | openObject
  | closeObject
  | comma
  | colon
  | null
  | bool (value : Bool)
  | number (value : NumberText)
  | text (pieces : List Piece)
  deriving DecidableEq, Repr

/-- A blank between words. -/
def isSpace (b : UInt8) : Bool :=
  b == ' '.toUInt8 || b == '\t'.toUInt8 || b == '\n'.toUInt8 || b == '\r'.toUInt8

/-- An ASCII digit. -/
def isDigitByte (b : UInt8) : Bool := '0'.toUInt8 ≤ b && b ≤ '9'.toUInt8

/-- The value of an ASCII digit. -/
def digitOf (b : UInt8) : Nat := b.toNat - '0'.toNat

/-- The value of a hexadecimal digit of either case. -/
def hexDigit? (b : UInt8) : Option Nat :=
  if isDigitByte b then some (digitOf b)
  else if 'a'.toUInt8 ≤ b ∧ b ≤ 'f'.toUInt8 then some (b.toNat - 'a'.toNat + 10)
  else if 'A'.toUInt8 ≤ b ∧ b ≤ 'F'.toUInt8 then some (b.toNat - 'A'.toNat + 10)
  else none

/-- The 16-bit unit that four hexadecimal digits denote. -/
def unit? (a b c d : UInt8) : Option Nat := do
  return (((← hexDigit? a) * 16 + (← hexDigit? b)) * 16 + (← hexDigit? c)) * 16 + (← hexDigit? d)

/-- The byte that a letter denotes after a backslash. -/
def escaped? (b : UInt8) : Option UInt8 :=
  if b == '"'.toUInt8 || b == '\\'.toUInt8 || b == '/'.toUInt8 then some b
  else if b == 'b'.toUInt8 then some 0x08
  else if b == 'f'.toUInt8 then some 0x0C
  else if b == 'n'.toUInt8 then some 0x0A
  else if b == 'r'.toUInt8 then some 0x0D
  else if b == 't'.toUInt8 then some 0x09
  else none

/-- The pieces up to the closing quote, after the pieces `done` in reverse, and what follows. -/
def textRest (done : List Piece) : List UInt8 → Option (List Piece × List UInt8)
  | [] => none
  | b :: rest =>
    if b == '"'.toUInt8 then some (done.reverse, rest)
    else if b < 0x20 then none
    else if b == '\\'.toUInt8 then
      match rest with
      | [] => none
      | e :: rest =>
        if e == 'u'.toUInt8 then
          match rest with
          | h₁ :: h₂ :: h₃ :: h₄ :: rest =>
            match unit? h₁ h₂ h₃ h₄ with
            | some u => textRest (.unit u :: done) rest
            | none => none
          | _ => none
        else
          match escaped? e with
          | some c => textRest (.byte c :: done) rest
          | none => none
    else textRest (.byte b :: done) rest

/-- The digits that `bs` starts with, and what follows them. -/
def digitRun (bs : List UInt8) : List Nat × List UInt8 :=
  let (digits, rest) := bs.span isDigitByte
  (digits.map digitOf, rest)

/-- The number of value zero or more that a run of digits denotes. -/
def digitsToNat (digits : List Nat) : Nat :=
  digits.foldl (fun value d => value * 10 + d) 0

/-- The fraction of a number, if a point follows; the point needs a digit. -/
def fraction? : List UInt8 → Option (Option (List Nat) × List UInt8)
  | b :: rest =>
    if b == '.'.toUInt8 then
      let (digits, rest) := digitRun rest
      if digits = [] then none else some (some digits, rest)
    else some (none, b :: rest)
  | [] => some (none, [])

/-- A sign of an exponent, if one is written, and what follows it. -/
def exponentSign : List UInt8 → Bool × List UInt8
  | b :: rest =>
    if b == '-'.toUInt8 then (true, rest)
    else if b == '+'.toUInt8 then (false, rest)
    else (false, b :: rest)
  | [] => (false, [])

/-- The exponent of a number, if the letter e follows; the letter needs a digit. -/
def exponent? : List UInt8 → Option (Option Int × List UInt8)
  | b :: rest =>
    if b == 'e'.toUInt8 || b == 'E'.toUInt8 then
      let (negative, rest) := exponentSign rest
      let (digits, rest) := digitRun rest
      if digits = [] then none
      else some (some (if negative then -(digitsToNat digits : Int) else digitsToNat digits), rest)
    else some (none, b :: rest)
  | [] => some (none, [])

/-- A number, and what follows it. No other digit may follow a leading zero. -/
def number? (bs : List UInt8) : Option (NumberText × List UInt8) :=
  let (negative, bs) :=
    match bs with
    | b :: rest => if b == '-'.toUInt8 then (true, rest) else (false, bs)
    | [] => (false, [])
  let (whole, bs) := digitRun bs
  if whole = [] ∨ (whole.head? = some 0 ∧ 1 < whole.length) then none
  else do
    let (fraction, bs) ← fraction? bs
    let (exponent, bs) ← exponent? bs
    return ({ negative, whole, fraction, exponent }, bs)

/-- The words made of letters. -/
def namedTokens : List (List UInt8 × Token) :=
  [(Text.utf8 "null", .null), (Text.utf8 "true", .bool true),
   (Text.utf8 "false", .bool false)]

/-- A word of letters, and what follows it. -/
def word? (bs : List UInt8) : Option (Token × List UInt8) :=
  (namedTokens.find? fun (name, _) => name.isPrefixOf bs).map fun (name, token) =>
    (token, bs.drop name.length)

/-- The word that is a single mark. -/
def mark? (b : UInt8) : Option Token :=
  if b == '['.toUInt8 then some .openList
  else if b == ']'.toUInt8 then some .closeList
  else if b == '\x7b'.toUInt8 then some .openObject
  else if b == '\x7d'.toUInt8 then some .closeObject
  else if b == ','.toUInt8 then some .comma
  else if b == ':'.toUInt8 then some .colon
  else none

/-- The first word of `b :: rest`, which starts at `b`, and what follows it. -/
def token? (b : UInt8) (rest : List UInt8) : Option (Token × List UInt8) :=
  match mark? b with
  | some token => some (token, rest)
  | none =>
    if b == '"'.toUInt8 then (textRest [] rest).map fun (pieces, rest) => (.text pieces, rest)
    else if b == '-'.toUInt8 || isDigitByte b then
      (number? (b :: rest)).map fun (value, rest) => (.number value, rest)
    else word? (b :: rest)

/-- The words of the bytes after the words `done` in reverse; every word takes one unit of fuel. -/
def tokensFrom (done : List Token) : Nat → List UInt8 → Option (List Token)
  | _, [] => some done.reverse
  | 0, _ :: _ => none
  | fuel + 1, b :: rest =>
    if isSpace b then tokensFrom done fuel rest
    else
      match token? b rest with
      | some (token, rest) => tokensFrom (token :: done) fuel rest
      | none => none

/-- The words of an answer, or nothing when one is misspelt. -/
def tokens? (bs : List UInt8) : Option (List Token) :=
  tokensFrom [] bs.length bs

end CandleArchive.Json
