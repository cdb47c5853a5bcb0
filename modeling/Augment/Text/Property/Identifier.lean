import Augment.Text.Property.IdentifierData

/-!
# Identifier characters

Where an identifier may begin and how it may go on: an identifier starts with an underscore or a
character of `XID_Start`, and continues with characters of `XID_Continue`. The ASCII range is
decided without the tables.
-/

namespace Augment.Text

/-- Whether the character has the property `XID_Start`. -/
def isXidStart (c : Char) : Bool :=
  if c.toNat < 128 then c.isAlpha else xidStartTable.contains c

/-- Whether the character has the property `XID_Continue`. -/
def isXidContinue (c : Char) : Bool :=
  if c.toNat < 128 then c.isAlphanum || c == '_' else xidContinueTable.contains c

/-- Whether an identifier may begin with the character: an underscore or `XID_Start`. -/
def isIdentStart (c : Char) : Bool :=
  c == '_' || isXidStart c

/-- Whether an identifier may go on with the character: `XID_Continue`. -/
def isIdentContinue (c : Char) : Bool :=
  isXidContinue c

end Augment.Text
