import Augment.Text.Property.DisplayData

/-!
# Quoted text

How a string is written between double quotes when it is shown back to a reader: the tab, the
carriage return, the line feed, the backslash and the double quote get a backslash escape, and
every character that is not printable or that extends a grapheme is written as `\u` with its
code point in lower-case hexadecimal between braces. The single quote stands as it is.

The one choice that differs between the two quoted forms used here is the NUL character: a
string literal writes `\x00` when an octal digit follows it, so that the escape cannot be read as
a longer one; the debugging form always writes `\0`.
-/

namespace Augment.Text

/-- Whether the character has the property `Grapheme_Extend`. -/
def isGraphemeExtend (c : Char) : Bool :=
  c.toNat ≥ 0x300 && graphemeExtendTable.contains c

/-- Whether the character is printable: not a control, format, surrogate, private-use or
unassigned code point, and not a separator other than the space. -/
def isPrintable (c : Char) : Bool :=
  if c.toNat < 128 then 0x20 ≤ c.toNat && c.toNat < 0x7F
  else !unprintableTable.contains c

/-- The escape `\u` followed by the code point in lower-case hexadecimal between braces. -/
def unicodeEscape (c : Char) : String :=
  "\\u" ++ "\x7b" ++ String.ofList (Nat.toDigits 16 c.toNat) ++ "\x7d"

/-- How one character other than NUL is written inside double quotes. -/
def escapeQuotedChar (c : Char) : String :=
  if c == '\t' then "\\t"
  else if c == '\r' then "\\r"
  else if c == '\n' then "\\n"
  else if c == '\\' then "\\\\"
  else if c == '"' then "\\\""
  else if isGraphemeExtend c then unicodeEscape c
  else if isPrintable c then c.toString
  else unicodeEscape c

/-- Whether a character is an octal digit. -/
def isOctalDigit (c : Char) : Bool :=
  '0' ≤ c && c ≤ '7'

/-- The escaped characters of a quoted string; `literal` selects the string-literal form of NUL. -/
def escapeQuotedChars (literal : Bool) : List Char → String
  | [] => ""
  | c :: rest =>
    let nul := if literal && (rest.head?.map isOctalDigit).getD false then "\\x00" else "\\0"
    (if c == Char.ofNat 0 then nul else escapeQuotedChar c) ++ escapeQuotedChars literal rest

/-- The debugging form of a string: quoted, with escapes. -/
def debugQuoted (s : String) : String :=
  "\"" ++ escapeQuotedChars false s.toList ++ "\""

/-- The string literal that denotes a string: quoted, with escapes. -/
def stringLiteralText (s : String) : String :=
  "\"" ++ escapeQuotedChars true s.toList ++ "\""

end Augment.Text
