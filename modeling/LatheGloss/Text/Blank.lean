import LatheGloss.Text.CharSet

/-! Blanks: the characters that trimming takes away and that end a jump target. Besides the
spaces of Unicode they include the four information separators and the next-line control.
-/

namespace LatheGloss.Text

def blankRanges : CharSet :=
  [
    (0x0009, 0x000D), (0x001C, 0x0020), (0x0085, 0x0085), (0x00A0, 0x00A0), (0x1680, 0x1680),
    (0x2000, 0x200A), (0x2028, 0x2029), (0x202F, 0x202F), (0x205F, 0x205F), (0x3000, 0x3000)
  ]

def isBlank (c : Character) : Bool :=
  blankRanges.contains c

end LatheGloss.Text
