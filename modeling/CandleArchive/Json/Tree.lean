import CandleArchive.Json.Token

/-!
# JSON trees — the shape of a provider's answer

The words of an answer build lists and objects. The reader keeps the unfinished ones in a list of
frames and takes one word at a time, so an answer may be nested to any depth.

* `Tree`: a value whose texts and numbers are still as they were written;
* `Frame`, `Reading`: an unfinished list or object, and what may come next;
* `Reading.step`, `tree?`: one word, and a whole answer.
-/

namespace CandleArchive.Json

/-- A value as it was written. -/
inductive Tree where
  | null
  | bool (value : Bool)
  | number (value : NumberText)
  | text (pieces : List Piece)
  | list (items : List Tree)
  | object (members : List (List Piece × Tree))

/-- An unfinished list, or an unfinished object that waits for the value of `key`; what is done
stands in reverse. -/
inductive Frame where
  | list (done : List Tree)
  | object (done : List (List Piece × Tree)) (key : List Piece)

/-- What the words read so far leave to be read. -/
inductive Reading where
  /-- A value. -/
  | value (frames : List Frame)
  /-- The first item of a list, or its end. -/
  | listStart (frames : List Frame)
  /-- The first key of an object, or its end. -/
  | objectStart (frames : List Frame)
  /-- A key of an object that has the members `done` in reverse. -/
  | objectKey (done : List (List Piece × Tree)) (frames : List Frame)
  /-- The colon after a key. -/
  | objectColon (done : List (List Piece × Tree)) (key : List Piece) (frames : List Frame)
  /-- A comma or the end of a list. -/
  | listNext (done : List Tree) (frames : List Frame)
  /-- A comma or the end of an object. -/
  | objectNext (done : List (List Piece × Tree)) (frames : List Frame)
  /-- Nothing. -/
  | finished (tree : Tree)

/-- What is left to be read after the value `tree`. -/
def Reading.after (tree : Tree) : List Frame → Reading
  | [] => .finished tree
  | .list done :: frames => .listNext (tree :: done) frames
  | .object done key :: frames => .objectNext ((key, tree) :: done) frames

/-- What is left after a word that starts a value. -/
def Reading.start (frames : List Frame) : Token → Option Reading
  | .null => some (.after .null frames)
  | .bool b => some (.after (.bool b) frames)
  | .number n => some (.after (.number n) frames)
  | .text pieces => some (.after (.text pieces) frames)
  | .openList => some (.listStart frames)
  | .openObject => some (.objectStart frames)
  | _ => none

/-- What is left after one more word. -/
def Reading.step : Reading → Token → Option Reading
  | .value frames, token => start frames token
  | .listStart frames, .closeList => some (.after (.list []) frames)
  | .listStart frames, token => start (.list [] :: frames) token
  | .objectStart frames, .closeObject => some (.after (.object []) frames)
  | .objectStart frames, .text key => some (.objectColon [] key frames)
  | .objectKey done frames, .text key => some (.objectColon done key frames)
  | .objectColon done key frames, .colon => some (.value (.object done key :: frames))
  | .listNext done frames, .comma => some (.value (.list done :: frames))
  | .listNext done frames, .closeList => some (.after (.list done.reverse) frames)
  | .objectNext done frames, .comma => some (.objectKey done frames)
  | .objectNext done frames, .closeObject => some (.after (.object done.reverse) frames)
  | _, _ => none

/-- The value that the words form. -/
def treeOfTokens? (words : List Token) : Option Tree :=
  match words.foldlM Reading.step (.value []) with
  | some (.finished tree) => some tree
  | _ => none

/-- The one value that an answer consists of. -/
def tree? (bs : List UInt8) : Option Tree :=
  (tokens? bs).bind treeOfTokens?

end CandleArchive.Json
