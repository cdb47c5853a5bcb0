import Augment.Toml.Syntax
import Augment.Toml.Datetime

/-!
# Decoding keys and scalars

A key part or a scalar is decoded from its text; errors point into that text, and the caller
moves them to where it stands.

**Strings.** A basic string undoes its escapes: `\b`, `\t`, `\n`, `\f`, `\r`, `\e`, `\"`, `\\`,
and `\xHH`, `\uHHHH`, `\UHHHHHHHH` for a character by its code. Its characters are blanks and
visible characters; other controls are errors, as is an unknown escape, a code with too few hex
digits, or a code that is no character. A literal string is taken as it is, but for the same
controls. Multi-line strings also hold line breaks, drop a line break right after their opening
quotes, and in basic ones a backslash at a line's end drops the blanks and line breaks after it;
a carriage return in them must start a line break. A string without its closing quotes is an
error at its end. An error in a literal string points at the first bad character, one in a basic
string at the run of bad characters it starts.

**Bare words.** What a bare word is depends on its first character: a sign, a digit or `_` make
a number or a date, `.` a float, and `t`, `f`, `i`, `n` the words `true`, `false`, `inf` and
`nan`. Anything else must have been quoted. Numbers follow the rules of the format:

* `0x`, `0o`, `0b` introduce hexadecimal, octal and binary integers, unsigned, with a lowercase
  letter and digits of their base; `0d` is needless;
* decimal integers and the integer part of a float have no leading zero;
* a float has digits before and after its point and in its exponent;
* `_` stands only between two digits, where any hexadecimal digit counts for an integer.

An integer whose digits, without their underscores, are not all digits of its base passes here
and cannot be represented later, when its value is taken.

Digits followed by `-` or `:` make a date or time, checked by `checkDatetime`.

A word with blanks between its parts is no value, except for a date and time.

A bare key is letters, digits, `-` and `_`, at least one.
-/

namespace Augment.Toml

/-- A decoded scalar. -/
inductive Scalar where
  /-- A string. -/
  | string (s : String)
  /-- An integer: its digits without underscores, a sign included for decimals, and its base. -/
  | integer (digits : List Char) (radix : Nat)
  /-- A float: its text without underscores. -/
  | float (text : List Char)
  /-- A boolean. -/
  | boolean (b : Bool)
  /-- A date, a time or both, as written. -/
  | datetime (text : List Char)
  deriving DecidableEq, Repr

namespace Scalar

/-- Fails with a reading error at a stretch of the text. -/
def fail {α : Type} (what : String) (expected : Option (List Expected)) (start stop : Nat) :
    Except TomlError α :=
  .error (TomlError.reading what expected ⟨start, stop⟩)

/-! ### Strings -/

/-- The value of a hexadecimal digit. -/
def hexDigit? (c : Char) : Option Nat :=
  if '0' ≤ c && c ≤ '9' then some (c.toNat - '0'.toNat)
  else if 'a' ≤ c && c ≤ 'f' then some (c.toNat - 'a'.toNat + 10)
  else if 'A' ≤ c && c ≤ 'F' then some (c.toNat - 'A'.toNat + 10)
  else none

/-- Whether a character is a hexadecimal digit. -/
def isHexDigit (c : Char) : Bool :=
  (hexDigit? c).isSome

/-- The escapes a basic string knows, as named in messages. -/
def knownEscapes : List Expected :=
  ["b", "e", "f", "n", "r", "\\", "\"", "x", "u", "U"].map .literal

/-- Reads the escape after a backslash; `pos` is the offset of the character after the
backslash. Answers the character and the rest. -/
def escape (cs : List Char) (pos : Nat) : Except TomlError (Char × List Char) :=
  let simple := fun (c : Char) (rest : List Char) => (.ok (c, rest) : Except TomlError _)
  match cs with
  | 'b' :: rest => simple (Char.ofNat 8) rest
  | 't' :: rest => simple '\t' rest
  | 'n' :: rest => simple '\n' rest
  | 'f' :: rest => simple (Char.ofNat 12) rest
  | 'r' :: rest => simple '\r' rest
  | 'e' :: rest => simple (Char.ofNat 27) rest
  | '"' :: rest => simple '"' rest
  | '\\' :: rest => simple '\\' rest
  | c :: rest =>
    if c == 'x' || c == 'u' || c == 'U' then
      let width := if c == 'x' then 2 else if c == 'u' then 4 else 8
      let ds := (rest.takeWhile isHexDigit).take width
      if ds.length != width then
        fail "too few unicode value digits" (some [.description "unicode hexadecimal value"])
          (pos + 1 + ds.length) (pos + 1 + ds.length)
      else
        let n := ds.foldl (fun acc d => acc * 16 + (hexDigit? d).getD 0) 0
        if n ≤ 0x10FFFF && !(0xD800 ≤ n && n ≤ 0xDFFF) then
          .ok (Char.ofNat n, rest.drop width)
        else
          fail "invalid value" (some [.description "unicode hexadecimal value"]) (pos + 1)
            (pos + 1)
    else fail "missing escaped value" (some knownEscapes) pos pos
  | [] => fail "missing escaped value" (some knownEscapes) pos pos

/-- Whether a character may stand unescaped in a string: blanks and visible characters. -/
def isStringChar (c : Char) : Bool :=
  c == ' ' || c == '\t' || ('!' ≤ c && c ≤ '~') || c.toNat ≥ 0x80

/-- Whether a character stands at a line break in a multi-line string: a line feed, or a carriage
return before one. -/
def isLineBreakAt (c : Char) (rest : List Char) : Bool :=
  c == '\n' || (c == '\r' && rest.head? == some '\n')

/-- Drops the blanks and line breaks after a line-ending backslash; the first non-blank must
start a line break. `pos` is the offset of the first of them. -/
def lineContinuation (cs : List Char) (pos : Nat) : Except TomlError (List Char × Nat) :=
  let blanks := cs.takeWhile fun c => c == ' ' || c == '\t'
  let rest := cs.drop blanks.length
  let at_ := pos + blanks.length
  match rest with
  | '\n' :: _ | '\r' :: '\n' :: _ =>
    let gap := rest.takeWhile fun c => c == ' ' || c == '\t' || c == '\n' || c == '\r'
    let loneReturn := (List.range gap.length).find? fun i =>
      gap[i]? == some '\r' && rest[i + 1]? != some '\n'
    match loneReturn with
    | some i =>
      fail "carriage return must be followed by newline" (some [.literal "\n"]) (at_ + i + 1)
        (at_ + i + 1)
    | none => .ok (rest.drop gap.length, at_ + gap.length)
  | '\r' :: _ =>
    fail "carriage return must be followed by newline" (some [.literal "\n"]) (at_ + 1) (at_ + 1)
  | _ => fail "invalid multi-line basic string" (some [.literal "\n"]) at_ at_

/-- How a string's body is decoded. -/
structure BodyRules where
  /-- What an error calls the string. -/
  name : String
  /-- What an error says was expected instead of a bad character. -/
  expected : List Expected
  /-- Whether backslashes start escapes. -/
  escapes : Bool
  /-- Whether line breaks may stand in the body. -/
  multiLine : Bool
  /-- Whether an error points at the first bad character alone rather than at the run of bad
  characters it starts. -/
  single : Bool

/-- Decodes a string's body from an offset; fuel bounds the steps by the body's length. -/
def body (r : BodyRules) : Nat → List Char → Nat → List Char → Except TomlError (List Char)
  | 0, _, _, acc => .ok acc.reverse
  | _ + 1, [], _, acc => .ok acc.reverse
  | fuel + 1, c :: rest, pos, acc =>
    if r.escapes && c == '\\' then
      if r.multiLine && (rest.head? == some ' ' || rest.head? == some '\t' ||
          rest.head? == some '\n' || rest.head? == some '\r') then do
        let (rest, pos) ← lineContinuation rest (pos + 1)
        body r fuel rest pos acc
      else do
        let (d, after) ← escape rest (pos + 1)
        body r fuel after (pos + 1 + (rest.length - after.length)) (d :: acc)
    else if isStringChar c && !(r.escapes && c == '\\') then body r fuel rest (pos + 1) (c :: acc)
    else if r.multiLine && isLineBreakAt c rest then body r fuel rest (pos + 1) (c :: acc)
    else if r.multiLine && c == '\r' then
      fail "carriage return must be followed by newline" (some [.literal "\n"]) (pos + 1)
        (pos + 1)
    else if r.single then fail r.name (some r.expected) pos pos
    else
      let run := (c :: rest).takeWhile fun d =>
        !(isStringChar d || (r.escapes && d == '\\') || (r.multiLine && d == '\n'))
      fail r.name (some r.expected) pos (pos + max run.length 1)

/-- Drops a line break right after a multi-line string's opening quotes; answers how many
characters went. -/
def dropFirstLineBreak (cs : List Char) : List Char × Nat :=
  match cs with
  | '\n' :: rest => (rest, 1)
  | '\r' :: '\n' :: rest => (rest, 2)
  | _ => (cs, 0)

/-- Decodes a quoted string's text, its quotes included. -/
def quoted (q : Quoting) (cs : List Char) : Except TomlError String := do
  let (delim, rules) : List Char × BodyRules := match q with
    | .basic => (['"'],
        ⟨"invalid basic string",
          [.description "non-double-quote visible characters", .literal "\\"], true, false,
          false⟩)
    | .literal => (['\''],
        ⟨"invalid literal string", [.description "non-single-quote visible characters"], false,
          false, true⟩)
    | .multiLineBasic => (['"', '"', '"'],
        ⟨"invalid multi-line basic string", [.literal "\\", .description "characters"], true,
          true, false⟩)
    | .multiLineLiteral => (['\'', '\'', '\''],
        ⟨"invalid multi-line literal string", [.description "non-single-quote characters"],
          false, true, true⟩)
  let quote := String.ofList delim
  if cs.take delim.length != delim then fail rules.name (some [.literal quote]) 0 0
  let inner := cs.drop delim.length
  let (inner, skipped) := if rules.multiLine then dropFirstLineBreak inner else (inner, 0)
  let closed := inner.length ≥ delim.length && inner.drop (inner.length - delim.length) == delim
  let closing := String.ofList (delim.take 1)
  if !closed then fail rules.name (some [.literal closing]) cs.length cs.length
  let content := inner.take (inner.length - delim.length)
  let decoded ← body rules (content.length + 1) content (delim.length + skipped) []
  return String.ofList decoded

/-! ### Keys -/

/-- What a bare key may hold, in messages. -/
def keyChars : List Expected :=
  [.description "letters", .description "numbers", .literal "-", .literal "_"]

/-- Whether a character may stand in a bare key. -/
def isKeyChar (c : Char) : Bool :=
  ('a' ≤ c && c ≤ 'z') || ('A' ≤ c && c ≤ 'Z') || c.isDigit || c == '-' || c == '_'

/-- Decodes a bare key; an error points at the first run of characters a bare key may not
hold. -/
def bareKey (cs : List Char) : Except TomlError String :=
  if cs.isEmpty then fail "unquoted keys cannot be empty" (some keyChars) 0 0
  else match cs.findIdx? (!isKeyChar ·) with
    | some i =>
      let run := (cs.drop i).takeWhile (!isKeyChar ·)
      fail "invalid unquoted key" (some keyChars) i (i + run.length)
    | none => .ok (String.ofList cs)

/-- Decodes a key part; errors point where it stands. -/
def key (p : KeyPart) : Except TomlError String :=
  let decoded := match p.quoting with
    | none => bareKey p.text
    | some .basic => quoted .basic p.text
    | some .literal => quoted .literal p.text
    | some .multiLineBasic =>
      fail "keys cannot be multi-line basic strings"
        (some [.description "basic string", .description "literal string"]) 0 p.text.length
    | some .multiLineLiteral =>
      fail "keys cannot be multi-line literal strings"
        (some [.description "basic string", .description "literal string"]) 0 p.text.length
  decoded.mapError (TomlError.shift · p.span.start)

/-! ### Bare words -/

/-- Whether a text ends with a suffix. -/
def endsWith (cs suffix : List Char) : Bool :=
  cs.length ≥ suffix.length && cs.drop (cs.length - suffix.length) == suffix

/-- The error of a bare word that is no value: a quote at its end suggests a missing opening
quote, otherwise strings must be quoted. -/
def notAValue {α : Type} (cs : List Char) : Except TomlError α :=
  if endsWith cs ['\'', '\'', '\''] then fail "missing opening quote" (some [.literal "'''"]) 0 0
  else if endsWith cs ['"', '"', '"'] then fail "missing opening quote" (some [.literal "\"\"\""]) 0 0
  else if endsWith cs ['\''] then fail "missing opening quote" (some [.literal "'"]) 0 0
  else if endsWith cs ['"'] then fail "missing opening quote" (some [.literal "\""]) 0 0
  else fail "string values must be quoted" (some [.description "literal string"]) 0 cs.length

/-- Whether a character is a digit of a base. -/
def isDigitOf (radix : Nat) (c : Char) : Bool :=
  if radix == 16 then isHexDigit c
  else if radix == 8 then '0' ≤ c && c ≤ '7'
  else if radix == 2 then c == '0' || c == '1'
  else c.isDigit

/-- Checks that each `_` of a number stands between two digits, and drops them; `pos` is the
offset of the text. Hexadecimal digits count as digits around an integer's underscores, only
decimal ones around a float's. A `_` at the start is reported first, then one at the end, then
the first that stands elsewhere next to no digit. -/
def dropUnderscores (cs : List Char) (pos : Nat) (isFloat : Bool) :
    Except TomlError (List Char) :=
  let digit := fun (c : Option Char) => match c with
    | some d => if isFloat then d.isDigit else isHexDigit d
    | none => false
  let bad :=
    if cs.head? == some '_' then some 0
    else if cs.length > 1 && cs.getLast? == some '_' then some (cs.length - 1)
    else (List.range cs.length).find? fun i =>
      cs[i]? == some '_' && !(i > 0 && digit cs[i - 1]? && digit cs[i + 1]?)
  match bad with
  | some i => fail "`_` may only go between digits" (some []) (pos + i) (pos + i + 1)
  | none => .ok (cs.filter (· != '_'))

/-- Checks that a number does not start with a needless zero; `pos` is its offset. -/
def noLeadingZero (cs : List Char) (pos : Nat) : Except TomlError Unit :=
  if cs.head? == some '0' then fail "unexpected leading zero" (some []) pos (pos + 1)
  else .ok ()

/-- Checks a run of digits and underscores in a float, at least one digit and, unless
`zeroFirst`, no needless leading zero; answers the rest and its offset. -/
def floatDigits (what : String) (zeroFirst : Bool) (cs : List Char) (pos : Nat) :
    Except TomlError (List Char × Nat) :=
  let run := cs.takeWhile fun c => c.isDigit || c == '_'
  let count := (run.filter Char.isDigit).length
  if count == 0 then fail what (some [.description "digits"]) pos pos
  else if count > 1 && run.head? == some '0' && !zeroFirst then
    fail "unexpected leading zero" (some []) pos (pos + 1)
  else .ok (cs.drop run.length, pos + run.length)

/-- Checks a float's shape: an integer part, then a fraction, an exponent or both, each with
digits. `pos` is the offset of the text; `total` the length of the whole word. -/
def checkFloat (cs : List Char) (pos total : Nat) : Except TomlError Unit := do
  let (rest, pos) ← floatDigits "invalid mantissa" false cs pos
  let (rest, pos) ← match rest with
    | '.' :: more => floatDigits "invalid fraction" true more (pos + 1)
    | _ => pure (rest, pos)
  let (rest, pos) ← match rest with
    | e :: more =>
      if e == 'e' || e == 'E' then
        match more with
        | s :: evenMore =>
          if s == '+' || s == '-' then floatDigits "invalid exponent" true evenMore (pos + 2)
          else floatDigits "invalid exponent" true more (pos + 1)
        | [] => floatDigits "invalid exponent" true more (pos + 1)
      else pure (rest, pos)
    | [] => pure (rest, pos)
  if !rest.isEmpty then fail "invalid float" (some []) pos total

/-- A float word: its shape checked from `pos` on, its underscores checked over the whole word. -/
def floatWord (word value : List Char) (pos : Nat) : Except TomlError Scalar := do
  checkFloat value pos word.length
  return .float (← dropUnderscores word 0 true)

/-- A decimal integer word, its underscores checked over the whole word. -/
def decimal (word value : List Char) (pos : Nat) : Except TomlError Scalar := do
  noLeadingZero value pos
  return .integer (← dropUnderscores word 0 false) 10

/-- A word of digits (`value`, at `pos` in `word`): a date or time when `-` or `:` follows the
first digits, else a float or a decimal integer. -/
def numberOrDate (word value : List Char) (pos : Nat) : Except TomlError Scalar :=
  let rest := value.dropWhile Char.isDigit
  match rest with
  | [] => decimal word value pos
  | c :: _ =>
    if c == '-' || c == ':' then
      match checkDatetime word with
      | .ok () => .ok (.datetime word)
      | .error message => .error { message, span := some ⟨0, word.length⟩ }
    else if rest.contains ' ' then notAValue word
    else if rest.any fun d => d == '.' || d == 'e' || d == 'E' then floatWord word value pos
    else if c == '_' then decimal word value pos
    else notAValue word

/-- The base a letter after `0` introduces, and its prefix. `0d` is understood as decimal,
but reported as needless. -/
def radixOf (c : Char) : Option (Nat × String × String) :=
  match c.toLower with
  | 'x' => some (16, "0x", "invalid hexadecimal number")
  | 'o' => some (8, "0o", "invalid octal number")
  | 'b' => some (2, "0b", "invalid binary number")
  | 'd' => some (10, "0d", "invalid decimal number")
  | _ => none

/-- A word whose number (`value`, at `pos`) starts with `0`: an integer with a base prefix, zero
itself, or digits as for other numbers. A word with a base prefix and a blank is no value. -/
def zeroFirst (word value : List Char) (pos : Nat) (signed : Bool) : Except TomlError Scalar :=
  match value with
  | [_] => .ok (.integer word 10)
  | _ :: r :: digits =>
    match radixOf r with
    | some (radix, pfx, invalid) => do
      if word.contains ' ' then notAValue word
      if signed then fail "integers with a radix cannot be signed" (some []) 0 1
      if radix == 10 then fail "redundant integer number prefix" (some []) pos (pos + 2)
      if r.isUpper then fail "radix must be lowercase" (some [.literal pfx]) pos (pos + 2)
      let dpos := pos + 2
      match digits.head? with
      | some s =>
        if s == '+' || s == '-' then fail "unexpected sign" (some []) dpos (dpos + 1)
      | none => pure ()
      match digits.findIdx? fun c => !(isDigitOf radix c || c == '_') with
      | some i => fail invalid none (dpos + i) (dpos + i)
      | none => pure ()
      return .integer (← dropUnderscores digits dpos false) radix
    | none => numberOrDate word value pos
  | [] => notAValue word

/-- A word that must be exactly `symbol`; a word with a blank is no value at all. -/
def symbol (word : List Char) (sym : String) (result : Scalar) (what : String) :
    Except TomlError Scalar :=
  if word == sym.toList then .ok result
  else if word.contains ' ' then notAValue word
  else fail what (some [.literal sym]) 0 word.length

/-- A word after its sign (`value`, at `pos`): a number, a date, `inf` or `nan`. -/
def signed (word value : List Char) (pos : Nat) : Except TomlError Scalar :=
  match value with
  | [] => notAValue word
  | c :: _ =>
    if c == '+' || c == '-' then fail "redundant numeric sign" (some []) pos (pos + 1)
    else if c == '_' || ('1' ≤ c && c ≤ '9') then numberOrDate word value pos
    else if c == '0' then zeroFirst word value pos true
    else if c == '.' then
      if word.contains ' ' then notAValue word else floatWord word word 0
    else if c == 'i' || c == 'I' then
      if value == ['i', 'n', 'f'] then .ok (.float word)
      else if word.contains ' ' then notAValue word
      else fail "invalid float" (some [.literal "inf"]) pos word.length
    else if c == 'n' || c == 'N' then
      if value == ['n', 'a', 'n'] then .ok (.float word)
      else if word.contains ' ' then notAValue word
      else fail "invalid float" (some [.literal "nan"]) pos word.length
    else notAValue word

/-- Decodes a bare word. -/
def bare (word : List Char) : Except TomlError Scalar :=
  match word with
  | [] => notAValue word
  | c :: rest =>
    if c == '+' || c == '-' then signed word rest 1
    else if c == '_' || ('1' ≤ c && c ≤ '9') then numberOrDate word word 0
    else if c == '0' then zeroFirst word word 0 false
    else if c == '.' then
      if word.contains ' ' then notAValue word else floatWord word word 0
    else if c == 't' || c == 'T' then symbol word "true" (.boolean true) "invalid boolean"
    else if c == 'f' || c == 'F' then symbol word "false" (.boolean false) "invalid boolean"
    else if c == 'i' || c == 'I' then symbol word "inf" (.float word) "invalid float"
    else if c == 'n' || c == 'N' then symbol word "nan" (.float word) "invalid float"
    else notAValue word

/-- Decodes a scalar as written; errors point where it stands. -/
def ofSyntax (text : List Char) (span : Span) (quoting : Option Quoting) :
    Except TomlError Scalar :=
  let decoded := match quoting with
    | some q => Scalar.string <$> quoted q text
    | none => bare text
  decoded.mapError (TomlError.shift · span.start)

end Scalar

end Augment.Toml
