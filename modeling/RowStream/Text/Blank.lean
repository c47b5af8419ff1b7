/-!
Contract: blank characters and trimming.

Owns:
- `isBlank`, the characters with the Unicode property White_Space;
- `trimBlanks`, a text without the blanks at its two ends.
-/

namespace RowStream.Text

/-- The code point ranges, ends included, of the Unicode property White_Space. -/
def blankRanges : List (Nat × Nat) :=
  [(0x9, 0xd), (0x20, 0x20), (0x85, 0x85), (0xa0, 0xa0), (0x1680, 0x1680),
   (0x2000, 0x200a), (0x2028, 0x2029), (0x202f, 0x202f), (0x205f, 0x205f),
   (0x3000, 0x3000)]

def isBlank (character : Char) : Bool :=
  blankRanges.any fun range => range.1 ≤ character.toNat && character.toNat ≤ range.2

/-- The text without the blanks before its first and after its last other character. -/
def trimBlanks (text : String) : String :=
  let leading := text.toList.dropWhile isBlank
  String.ofList (leading.reverse.dropWhile isBlank).reverse

end RowStream.Text
