import Augment.Text.Property.LetterData

/-!
# Letters, numbers and blanks

The character classes that names are checked against: alphabetic (the property `Alphabetic`),
numeric (the general categories `Nd`, `Nl`, `No`), alphanumeric (either) and blank (the property
`White_Space`). The ASCII range is decided without the tables.
-/

namespace Augment.Text

/-- Whether the character has the property `Alphabetic`. -/
def isAlphabetic (c : Char) : Bool :=
  if c.toNat < 128 then c.isAlpha else alphabeticTable.contains c

/-- Whether the character is of a numeric general category (`Nd`, `Nl` or `No`). -/
def isNumeric (c : Char) : Bool :=
  if c.toNat < 128 then c.isDigit else numericTable.contains c

/-- Whether the character is alphabetic or numeric. -/
def isAlphanumeric (c : Char) : Bool :=
  isAlphabetic c || isNumeric c

/-- Whether the character has the property `White_Space`: in ASCII the space and the controls
from tab to carriage return. -/
def isWhiteSpace (c : Char) : Bool :=
  if c.toNat < 128 then c == ' ' || (9 ≤ c.toNat && c.toNat ≤ 13)
  else whiteSpaceTable.contains c

end Augment.Text
