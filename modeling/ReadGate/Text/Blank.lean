import ReadGate.Text.Ranges

/-!
# White space

The blank characters are those of the Unicode `White_Space` property together with the four
information separators `U+001C` to `U+001F`.
-/

namespace ReadGate.Text

/-- All blank characters. -/
def blankRanges : Ranges := [
  (0x0009, 0x000D), (0x001C, 0x0020), (0x0085, 0x0085), (0x00A0, 0x00A0), (0x1680, 0x1680),
  (0x2000, 0x200A), (0x2028, 0x2029), (0x202F, 0x202F), (0x205F, 0x205F), (0x3000, 0x3000)]

/-- Is the character white space? -/
def isBlank (c : Char) : Bool :=
  blankRanges.contains c

end ReadGate.Text
