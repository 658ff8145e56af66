import TextParsers.Text.Ranges

/-!
# Breaking whitespace

Breaking whitespace is where a line may be broken: the white space of Unicode
together with the separator controls U+001C to U+001F, but without the spaces
that forbid a break (U+00A0, U+2007, U+202F) and without the next-line control
U+0085.
-/

namespace TextParsers.Text

/-- The code points of breaking whitespace. -/
def blankRanges : List (Nat × Nat) :=
  [(0x9, 0xD), (0x1C, 0x20), (0x1680, 0x1680), (0x2000, 0x2006), (0x2008, 0x200A),
   (0x2028, 0x2029), (0x205F, 0x205F), (0x3000, 0x3000)]

/-- Whether a character is breaking whitespace. -/
def isBlank (c : Char) : Bool := inRanges blankRanges c

end TextParsers.Text
