import CandleArchive.Json.Number
import CandleArchive.Json.Tree
import CandleArchive.Text.Utf8

/-!
# JSON values — the meaning of a provider's answer

Where the content of an answer is asked for, every text has to be valid Unicode, every number has to
have a value, and nesting is limited.

* `Value`: a value with its meaning;
* `text?`: the text that pieces spell;
* `Tree.valueWith`, `Tree.value?`: the value of a tree within a depth.

An encoder may embed a value as JSON text: it is then marked by an object with one reserved key,
and the object stands for the value that the text spells.
-/

namespace CandleArchive.Json

open Number (Binary64)

/-- A JSON value. -/
inductive Value where
  | null
  | bool (value : Bool)
  | integer (value : Int)
  | real (value : Binary64)
  | text (value : String)
  | list (items : List Value)
  | object (members : List (String × Value))

/-- The value of a number. -/
def Numeral.toValue : Numeral → Value
  | .integer value => .integer value
  | .real value => .real value

/-- The unit opens a pair that stands for one character. -/
def isLeading (u : Nat) : Bool := 0xD800 ≤ u && u ≤ 0xDBFF

/-- The unit closes such a pair. -/
def isTrailing (u : Nat) : Bool := 0xDC00 ≤ u && u ≤ 0xDFFF

/-- The UTF-8 encoding of the character with code point `n`. -/
def utf8OfCode (n : Nat) : List UInt8 := String.utf8EncodeChar (Char.ofNat n)

/-- The bytes that pieces stand for, after the bytes `done` in reverse; half a pair is refused. -/
def bytesOfPieces? (done : List UInt8) : List Piece → Option (List UInt8)
  | [] => some done.reverse
  | .byte b :: rest => bytesOfPieces? (b :: done) rest
  | .unit u :: rest =>
    if isTrailing u then none
    else if isLeading u then
      match rest with
      | .unit v :: rest =>
        if isTrailing v then
          let code := (u - 0xD800) * 0x400 + (v - 0xDC00) + 0x10000
          bytesOfPieces? ((utf8OfCode code).reverse ++ done) rest
        else none
      | _ => none
    else bytesOfPieces? ((utf8OfCode u).reverse ++ done) rest

/-- The text that pieces spell. -/
def text? (pieces : List Piece) : Option String :=
  (bytesOfPieces? [] pieces).bind Text.ofUtf8?

/-- The greatest depth of an answer whose content is asked for. -/
def maxDepth : Nat := 127

/-- The key of an object that stands for the value that its text spells. -/
def embeddingKey : String := "$serde_json::private::RawValue"

/-- The object starts with the reserved key. -/
def isEmbedding (members : List (List Piece × Tree)) : Bool :=
  members.head?.bind (fun (key, _) => text? key) == some embeddingKey

/-- The text in an object that has the reserved key. -/
def embeddedText? : List (List Piece × Tree) → Option String
  | [(_, .text pieces)] => text? pieces
  | _ => none

/-- The value of a tree whose lists and objects are nested at most `depth` deep; `embedded` gives
the values of embedded texts. -/
def Tree.valueWith (embedded : String → Option Value) : Nat → Tree → Option Value
  | _, .null => some .null
  | _, .bool b => some (.bool b)
  | _, .number n => n.value?.map Numeral.toValue
  | _, .text pieces => (text? pieces).map .text
  | 0, .list _ => none
  | 0, .object _ => none
  | depth + 1, .list items => (items.mapM (valueWith embedded depth)).map .list
  | depth + 1, .object members =>
    if isEmbedding members then (embeddedText? members).bind embedded
    else
      (members.mapM fun (key, tree) => do
        return ((← text? key), (← valueWith embedded depth tree))).map .object

/-- The value that a text spells. A text inside it is shorter, so its length bounds how often texts
are embedded in one another. -/
def valueOfText? : Nat → String → Option Value
  | 0, _ => none
  | bound + 1, s => (tree? (Text.utf8 s)).bind (Tree.valueWith (valueOfText? bound) maxDepth)

/-- The value of a tree whose lists and objects are nested at most `depth` deep. -/
def Tree.value? : Nat → Tree → Option Value :=
  Tree.valueWith fun s => valueOfText? (s.length + 1) s

end CandleArchive.Json
