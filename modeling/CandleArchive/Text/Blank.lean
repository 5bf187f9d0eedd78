/-!
# Blank characters — trimming a text

Every value a user or a provider writes may be padded. A **blank** is a character with the Unicode
property White_Space: among others the no-break spaces, the line and paragraph separators and the
ideographic space, but not the zero-width space or the byte order mark.

* `isBlank`: the property, as a table of ranges;
* `trimChars`, `trim`: a text without the blanks at both ends.
-/

namespace CandleArchive.Text

/-- The ranges of code points that are blank. -/
def blankRanges : List (Nat × Nat) :=
  [(0x09, 0x0D), (0x20, 0x20), (0x85, 0x85), (0xA0, 0xA0), (0x1680, 0x1680), (0x2000, 0x200A),
   (0x2028, 0x2029), (0x202F, 0x202F), (0x205F, 0x205F), (0x3000, 0x3000)]

/-- The character is white space. -/
def isBlank (c : Char) : Bool :=
  blankRanges.any fun (first, last) => first ≤ c.toNat && c.toNat ≤ last

/-- The characters between the first and the last that is not blank. -/
def trimChars (cs : List Char) : List Char :=
  ((cs.dropWhile isBlank).reverse.dropWhile isBlank).reverse

/-- The text without blanks at its ends. -/
def trim (s : String) : String :=
  String.ofList (trimChars s.toList)

end CandleArchive.Text
