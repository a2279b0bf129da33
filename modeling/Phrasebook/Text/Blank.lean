import Phrasebook.Text.CharClass

/-!
# Blank characters

Three classes of white space are in use: the ASCII one of the template language, the
Unicode one that is trimmed from the items of a list setting, and the Unicode one around
a numeral, which leaves out the four information separators U+001C to U+001F.
-/

namespace Phrasebook.Text

/-- Space, tab, line feed, carriage return, vertical tab and form feed. -/
def isAsciiBlank (c : Char) : Bool :=
  c.toNat == 32 || (9 ≤ c.toNat && c.toNat ≤ 13)

/-- Ranges of the characters that count as white space in Unicode text. -/
def blankRanges : CharClass := [
  (9, 13), (28, 32), (133, 133), (160, 160), (5760, 5760), (8192, 8202), (8232, 8233),
  (8239, 8239), (8287, 8287), (12288, 12288)]

/-- White space of Unicode text, the information separators included. -/
def isBlank (c : Char) : Bool :=
  blankRanges.contains c

/-- White space around a numeral: Unicode white space without the information separators. -/
def isNumeralBlank (c : Char) : Bool :=
  isBlank c && !(28 ≤ c.toNat && c.toNat ≤ 31)

end Phrasebook.Text
