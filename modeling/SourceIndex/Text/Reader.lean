import SourceIndex.Text.Class

/-!
# Readers

A reader takes characters from the front of a text and gives what it read with the characters that
follow, or nothing if the text does not begin as it should.
-/

namespace SourceIndex.Text

/-- What is read from the front of a text, with the rest. -/
abbrev Reader (α : Type) := List Char → Option (α × List Char)

/-- The value of a hexadecimal digit of either case. -/
def hexValue? (c : Char) : Option Nat :=
  if '0' ≤ c ∧ c ≤ '9' then some (c.toNat - 48)
  else if 'a' ≤ c ∧ c ≤ 'f' then some (c.toNat - 87)
  else if 'A' ≤ c ∧ c ≤ 'F' then some (c.toNat - 55)
  else none

/-- The value of digits in a base; characters that are no digits count as zero. -/
def valueIn (base : Nat) (digits : List Char) : Nat :=
  digits.foldl (fun value c => value * base + (hexValue? c).getD 0) 0

/-- The value of decimal digits. -/
def decimalValue (digits : List Char) : Nat := valueIn 10 digits

end SourceIndex.Text
