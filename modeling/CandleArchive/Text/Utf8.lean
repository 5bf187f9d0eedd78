/-!
# UTF-8 — texts as bytes

* `utf8`: the bytes of a text;
* `ofUtf8?`: the text that bytes encode.
-/

namespace CandleArchive.Text

/-- The bytes that encode the text. -/
def utf8 (s : String) : List UInt8 := s.toUTF8.toList

/-- The text that the bytes encode. -/
def ofUtf8? (bs : List UInt8) : Option String := String.fromUTF8? ⟨bs.toArray⟩

end CandleArchive.Text
