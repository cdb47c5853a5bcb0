import Augment.Text.Property.CaseData

/-!
# Case conversion

Full case conversion of characters and strings. A character may map to several (`ß` upper-cases
to `SS`). Lower-casing a string has one rule that looks at context: a capital sigma becomes the
final sigma `ς` when a cased letter precedes it and none follows it, case-ignorable characters
being skipped on both sides; elsewhere it becomes `σ`.
-/

namespace Augment.Text

/-- The full lower case mapping of a character. -/
def lowerChars (c : Char) : List Char :=
  if c.toNat < 128 then [c.toLower] else lowerMap.apply c

/-- The full upper case mapping of a character. -/
def upperChars (c : Char) : List Char :=
  if c.toNat < 128 then [c.toUpper] else upperMap.apply c

/-- Whether the character has the property `Cased`. -/
def isCased (c : Char) : Bool :=
  casedTable.contains c

/-- Whether the character has the property `Case_Ignorable`. -/
def isCaseIgnorable (c : Char) : Bool :=
  caseIgnorableTable.contains c

/-- Whether the first character of a sequence that is not case-ignorable is cased. -/
def startsCased (cs : List Char) : Bool :=
  match cs.dropWhile isCaseIgnorable with
  | c :: _ => isCased c
  | [] => false

/-- The capital sigma `Σ`. -/
def capitalSigma : Char := Char.ofNat 0x3A3

/-- The lower-case form of a capital sigma between `before` (read backwards) and `after`. -/
def sigmaLower (before after : List Char) : Char :=
  if startsCased before && !startsCased after then Char.ofNat 0x3C2 else Char.ofNat 0x3C3

/-- Lower-cases `rest`, where `before` is what precedes it, read backwards. -/
def lowerCharsFrom (before : List Char) : List Char → List Char
  | [] => []
  | c :: rest =>
    (if c == capitalSigma then [sigmaLower before rest] else lowerChars c) ++
      lowerCharsFrom (c :: before) rest

/-- The lower case of a string. -/
def lowerString (s : String) : String :=
  String.ofList (lowerCharsFrom [] s.toList)

/-- The upper case of a string. -/
def upperString (s : String) : String :=
  String.ofList (s.toList.flatMap upperChars)

end Augment.Text
