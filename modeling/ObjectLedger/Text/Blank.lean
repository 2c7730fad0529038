/-
**Blank characters and the trimming of a text.**

* `isBlank`: the characters with the Unicode property `White_Space`.
* `trim`: a text without the blank characters at its two ends.
-/

namespace ObjectLedger.Text

/-- The ranges of code points, both ends included, with the Unicode property `White_Space`. -/
def blankRanges : List (Nat × Nat) :=
  [(0x09, 0x0D), (0x20, 0x20), (0x85, 0x85), (0xA0, 0xA0), (0x1680, 0x1680), (0x2000, 0x200A),
    (0x2028, 0x2029), (0x202F, 0x202F), (0x205F, 0x205F), (0x3000, 0x3000)]

/-- The character is white space. -/
def isBlank (character : Char) : Bool :=
  blankRanges.any fun (first, last) => first ≤ character.toNat && character.toNat ≤ last

/-- The characters without the blank ones at both ends. -/
def trimChars (characters : List Char) : List Char :=
  ((characters.dropWhile isBlank).reverse.dropWhile isBlank).reverse

/-- The text without the blank characters at both ends. -/
def trim (text : String) : String :=
  String.ofList (trimChars text.toList)

/-- The text holds nothing but blank characters. -/
def isAllBlank (text : String) : Bool :=
  text.toList.all isBlank

end ObjectLedger.Text
