import SourceIndex.Text.Letter
import SourceIndex.Text.Numeral
import SourceIndex.Text.Mark
import SourceIndex.Text.Capital
import SourceIndex.Text.Newest

/-!
# Character classes

The classes of characters that layout, names and call patterns are defined by. Layout and names
follow edition 17 of the character standard, and the words of call patterns follow edition 16.
-/

namespace SourceIndex.Text

/-- Ranges of the property White_Space. -/
def blankRanges : Ranges :=
  [(0x09, 0x0d), (0x20, 0x20), (0x85, 0x85), (0xa0, 0xa0), (0x1680, 0x1680), (0x2000, 0x200a),
   (0x2028, 0x2029), (0x202f, 0x202f), (0x205f, 0x205f), (0x3000, 0x3000)]

/-- White space of any script. -/
def isBlank (c : Char) : Bool := blankRanges.contains c.toNat

/-- A letter or a numeral of any script. -/
def isLetterOrNumeral (c : Char) : Bool :=
  letterRanges.contains c.toNat || digitRanges.contains c.toNat || numeralRanges.contains c.toNat

/-- An upper-case letter of any script. -/
def isCapital (c : Char) : Bool := capitalRanges.contains c.toNat

/-- A character that continues a word: a letter, a decimal digit, a mark or a connector that is not
among the newest characters. -/
def isWordChar (c : Char) : Bool :=
  (letterRanges.contains c.toNat || digitRanges.contains c.toNat || joinerRanges.contains c.toNat)
    && !newestRanges.contains c.toNat

/-- A character of an identifier: a letter, a numeral, an underscore or a dollar sign. -/
def isNameChar (c : Char) : Bool := isLetterOrNumeral c || c == '_' || c == '$'

/-- A decimal digit of the ASCII range. -/
def isDigit (c : Char) : Bool := '0' ≤ c && c ≤ '9'

/-- The space character is blank. -/
@[simp] theorem isBlank_space : isBlank ' ' = true := by decide

end SourceIndex.Text
