/-!
# JSON text

Values as JSON text, laid out with two spaces of indentation per level: every element of a
non-empty array and every entry of a non-empty object stand on a line of their own, an entry as
`"key": value`; empty ones are `[]` and `{}`.

Strings are quoted with `"` and `\` escaped, the control characters backspace, tab, line feed,
form feed and carriage return as `\b`, `\t`, `\n`, `\f`, `\r`, and the other characters below
U+0020 as `\u00XX` with lowercase hex digits. Every other character is written as it is.
-/

namespace Augment.Text

/-- A JSON value. -/
inductive JsonText where
  /-- A string. -/
  | str (s : String)
  /-- A natural number. -/
  | nat (n : Nat)
  /-- An array. -/
  | arr (items : List JsonText)
  /-- An object, its entries in order. -/
  | obj (fields : List (String × JsonText))
  deriving Repr, Inhabited

/-- The lowercase hex digit of a number below 16. -/
def hexDigitLower (n : Nat) : Char :=
  if n < 10 then Char.ofNat (48 + n) else Char.ofNat (87 + n)

/-- The escaped form of one character inside a JSON string. -/
def jsonEscapeChar (c : Char) : String :=
  if c == '"' then "\\\""
  else if c == '\\' then "\\\\"
  else if c == '\n' then "\\n"
  else if c == '\r' then "\\r"
  else if c == '\t' then "\\t"
  else if c.toNat == 8 then "\\b"
  else if c.toNat == 12 then "\\f"
  else if c.toNat < 32 then
    "\\u00" ++ String.singleton (hexDigitLower (c.toNat / 16)) ++
      String.singleton (hexDigitLower (c.toNat % 16))
  else String.singleton c

/-- A string as a JSON string. -/
def jsonQuoted (s : String) : String :=
  "\"" ++ String.join (s.toList.map jsonEscapeChar) ++ "\""

/-- The indentation of a level. -/
def indentOf (level : Nat) : String :=
  String.ofList (List.replicate (2 * level) ' ')

mutual

/-- A value's text at an indentation level. -/
def JsonText.pretty (level : Nat) : JsonText → String
  | .str s => jsonQuoted s
  | .nat n => toString n
  | .arr [] => "[]"
  | .arr items => "[\n" ++ prettyItems (level + 1) items ++ "\n" ++ indentOf level ++ "]"
  | .obj [] => "\x7b\x7d"
  | .obj fields => "\x7b\n" ++ prettyFields (level + 1) fields ++ "\n" ++ indentOf level ++ "\x7d"

/-- The elements of an array, one per line. -/
def prettyItems (level : Nat) : List JsonText → String
  | [] => ""
  | [v] => indentOf level ++ v.pretty level
  | v :: vs => indentOf level ++ v.pretty level ++ ",\n" ++ prettyItems level vs

/-- The entries of an object, one per line. -/
def prettyFields (level : Nat) : List (String × JsonText) → String
  | [] => ""
  | [(k, v)] => indentOf level ++ jsonQuoted k ++ ": " ++ v.pretty level
  | (k, v) :: rest => indentOf level ++ jsonQuoted k ++ ": " ++ v.pretty level ++ ",\n" ++
    prettyFields level rest

end

end Augment.Text
