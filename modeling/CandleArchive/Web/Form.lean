import CandleArchive.Text.Utf8

/-!
# Form encoding — name and value pairs in a query

A query carries pairs of texts as `name=value`, joined by ampersands. Of the bytes of a text the
letters, the digits and `*-._` stand for themselves, a space becomes a plus sign and every other
byte a percent sign with two hexadecimal digits, so no text can add a pair or end one.

* `encodeText`, `encode`: a text and a list of pairs in encoded form;
* `decodeText?`, `decode?`: the way back.
-/

namespace CandleArchive.Web.Form

/-- The character of a hexadecimal digit, in upper case. -/
def hexChar (n : Nat) : Char :=
  Char.ofNat (if n < 10 then '0'.toNat + n else 'A'.toNat + (n - 10))

/-- The byte is written as the character with its code. -/
def isUnreserved (b : UInt8) : Bool :=
  let c := Char.ofNat b.toNat
  b < 0x80 && (c.isAlphanum || c == '*' || c == '-' || c == '.' || c == '_')

/-- A percent sign and the two hexadecimal digits of a byte. -/
def percentByte (b : UInt8) : List Char :=
  ['%', hexChar (b.toNat / 16), hexChar (b.toNat % 16)]

/-- The encoded form of a byte. -/
def encodeByte (b : UInt8) : List Char :=
  if isUnreserved b then [Char.ofNat b.toNat] else if b = 0x20 then ['+'] else percentByte b

/-- The encoded form of a text. -/
def encodeText (s : String) : List Char := (Text.utf8 s).flatMap encodeByte

/-- The encoded form of a pair. -/
def encodePair (p : String × String) : List Char := encodeText p.1 ++ '=' :: encodeText p.2

/-- The encoded form of a list of pairs. -/
def encode : List (String × String) → List Char
  | [] => []
  | [p] => encodePair p
  | p :: q :: ps => encodePair p ++ '&' :: encode (q :: ps)

/-- The value of a hexadecimal digit. -/
def hexValue? (c : Char) : Option Nat :=
  if '0' ≤ c ∧ c ≤ '9' then some (c.toNat - '0'.toNat)
  else if 'A' ≤ c ∧ c ≤ 'F' then some (c.toNat - 'A'.toNat + 10)
  else if 'a' ≤ c ∧ c ≤ 'f' then some (c.toNat - 'a'.toNat + 10)
  else none

/-- The bytes that encoded characters stand for. A percent sign needs its two digits, and a
character that is not ASCII is never part of an encoded form. -/
def decodeBytes? : List Char → Option (List UInt8)
  | [] => some []
  | '+' :: cs => (decodeBytes? cs).map (0x20 :: ·)
  | '%' :: h :: l :: cs => do
    let byte := UInt8.ofNat ((← hexValue? h) * 16 + (← hexValue? l))
    return byte :: (← decodeBytes? cs)
  | c :: cs =>
    if c = '%' ∨ 0x80 ≤ c.toNat then none
    else (decodeBytes? cs).map (UInt8.ofNat c.toNat :: ·)

/-- The text that encoded characters stand for. -/
def decodeText? (cs : List Char) : Option String :=
  (decodeBytes? cs).bind Text.ofUtf8?

/-- The pair that encoded characters stand for, split at the first equals sign. -/
def decodePair? (cs : List Char) : Option (String × String) := do
  let (name, value) := cs.span (· != '=')
  return ((← decodeText? name), (← decodeText? (value.drop 1)))

/-- The pairs that an encoded query stands for. -/
def decode? (cs : List Char) : Option (List (String × String)) :=
  if cs = [] then some [] else (cs.splitOn '&').mapM decodePair?

end CandleArchive.Web.Form
