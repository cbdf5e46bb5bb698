/-! # White space

The characters that count as blank around a setting, and the removal of them from both ends of
a text. -/
set_option autoImplicit false

namespace GranuleRecall.Text

/-- The characters with the Unicode property `White_Space`, by code point. -/
def isWhiteSpace (character : Char) : Bool :=
  let code := character.toNat
  (0x09 ≤ code && code ≤ 0x0D) || code == 0x20 || code == 0x85 || code == 0xA0 ||
    code == 0x1680 || (0x2000 ≤ code && code ≤ 0x200A) || code == 0x2028 || code == 0x2029 ||
    code == 0x202F || code == 0x205F || code == 0x3000

/-- The text without the white space before its first and after its last other character. -/
def trimmed (characters : List Char) : List Char :=
  ((characters.dropWhile isWhiteSpace).reverse.dropWhile isWhiteSpace).reverse

/-- `trimmed` on strings. -/
def trim (text : String) : String :=
  String.ofList (trimmed text.toList)

def isBlank (text : String) : Bool :=
  text.toList.all isWhiteSpace

end GranuleRecall.Text
