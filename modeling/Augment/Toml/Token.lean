import Augment.Toml.Document

/-!
# Tokens of a document

Scanning cuts a document's text into tokens without judging them: punctuation (`.`, `=`, `,`,
brackets and braces), runs of blanks, comments up to the line's end, line breaks (`\n`, `\r\n`, or
a lone `\r`), strings in their four quotings, and atoms: runs of anything else up to punctuation,
a blank, `#` or a line break. Numbers, booleans, dates and bare keys are all atoms; what they
mean is decided later.

A string runs to its closing quote, or stops before the line break or the end of the text that
cuts it short; a backslash in a basic string shields the quote or backslash after it. A
multi-line string takes up to two more quotes after its closing three. A byte order mark at the
start is skipped, and the scan ends with an empty end-of-text token.
-/

namespace Augment.Toml

/-- How a string is quoted. -/
inductive Quoting where
  /-- `'...'`: no escapes. -/
  | literal
  /-- `"..."`: with escapes. -/
  | basic
  /-- `'''...'''` over lines. -/
  | multiLineLiteral
  /-- `"""..."""` over lines, with escapes. -/
  | multiLineBasic
  deriving DecidableEq, Repr, Inhabited

/-- The kinds of tokens. -/
inductive TokenKind where
  /-- `.` -/
  | dot
  /-- `=` -/
  | equals
  /-- `,` -/
  | comma
  /-- `[` -/
  | leftBracket
  /-- `]` -/
  | rightBracket
  /-- `{` -/
  | leftBrace
  /-- `}` -/
  | rightBrace
  /-- Spaces and tabs. -/
  | blank
  /-- `#` and the rest of its line. -/
  | comment
  /-- A line break. -/
  | newline
  /-- A string in one of its quotings. -/
  | string (q : Quoting)
  /-- Anything else, up to punctuation, a blank, `#` or a line break. -/
  | atom
  /-- The end of the text. -/
  | eof
  deriving DecidableEq, Repr, Inhabited

/-- A token: its kind and where it stands. -/
structure Token where
  /-- The kind. -/
  kind : TokenKind
  /-- Where it stands. -/
  span : Span
  deriving DecidableEq, Repr, Inhabited

namespace Token

/-- Whether a character ends an atom. -/
def endsAtom (c : Char) : Bool :=
  c == '.' || c == '=' || c == ',' || c == '[' || c == ']' || c == '{' || c == '}' ||
    c == ' ' || c == '\t' || c == '#' || c == '\r' || c == '\n'

/-- The length of a one-line basic string's body up to and including its closing quote, or up to
a line break or the end. -/
def basicLength : List Char → Nat
  | [] => 0
  | '"' :: _ => 1
  | '\n' :: _ => 0
  | '\\' :: c :: rest =>
    if c == '\\' || c == '"' then 2 + basicLength rest else 1 + basicLength (c :: rest)
  | _ :: rest => 1 + basicLength rest

/-- The length of a one-line literal string's body up to and including its closing quote, or up
to a line break or the end. -/
def literalLength : List Char → Nat
  | [] => 0
  | '\'' :: _ => 1
  | '\n' :: _ => 0
  | _ :: rest => 1 + literalLength rest

/-- How many of up to two more quotes follow. -/
def extraQuotes (q : Char) (cs : List Char) : Nat :=
  ((cs.take 2).takeWhile (· == q)).length

/-- The length of a multi-line string's body after its opening delimiter, up to and including
the closing delimiter and up to two more quotes, or to the end; `escapes` for basic strings,
where a backslash shields the quote or backslash after it. -/
def multiLineLength (q : Char) (escapes : Bool) (cs : List Char) : Nat :=
  match cs with
  | [] => 0
  | c :: rest =>
    if c == q && rest.take 2 == [q, q] then 3 + extraQuotes q (rest.drop 2)
    else if escapes && c == '\\' then
      match rest with
      | d :: more =>
        if d == '\\' || d == '"' then 2 + multiLineLength q escapes more
        else 1 + multiLineLength q escapes (d :: more)
      | [] => 1
    else 1 + multiLineLength q escapes rest
termination_by cs.length

/-- The kind and length of the token at the start of a non-empty text. -/
def next (c : Char) (rest : List Char) : TokenKind × Nat :=
  match c with
  | '.' => (.dot, 1)
  | '=' => (.equals, 1)
  | ',' => (.comma, 1)
  | '[' => (.leftBracket, 1)
  | ']' => (.rightBracket, 1)
  | '{' => (.leftBrace, 1)
  | '}' => (.rightBrace, 1)
  | ' ' | '\t' => (.blank, 1 + (rest.takeWhile fun d => d == ' ' || d == '\t').length)
  | '#' => (.comment, 1 + (rest.takeWhile fun d => d != '\r' && d != '\n').length)
  | '\n' => (.newline, 1)
  | '\r' => (.newline, if rest.head? == some '\n' then 2 else 1)
  | '\'' =>
    if rest.take 2 == ['\'', '\''] then
      (.string .multiLineLiteral, 3 + multiLineLength '\'' false (rest.drop 2))
    else (.string .literal, 1 + literalLength rest)
  | '"' =>
    if rest.take 2 == ['"', '"'] then
      (.string .multiLineBasic, 3 + multiLineLength '"' true (rest.drop 2))
    else (.string .basic, 1 + basicLength rest)
  | _ => (.atom, 1 + (rest.takeWhile (!endsAtom ·)).length)

/-- Tokens of a text from an offset on, ending with the end-of-text token. -/
def scanFrom (cs : List Char) (pos : Nat) : List Token :=
  match cs with
  | [] => [⟨.eof, Span.at pos⟩]
  | c :: rest =>
    let (kind, len) := next c rest
    ⟨kind, ⟨pos, pos + len⟩⟩ :: scanFrom ((c :: rest).drop (max len 1)) (pos + max len 1)
termination_by cs.length
decreasing_by all_goals (simp only [List.length_drop, List.length_cons]; omega)

/-- The tokens of a document's text; a byte order mark at the start is skipped, and offsets still
count it. -/
def scan (cs : List Char) : List Token :=
  match cs with
  | '\uFEFF' :: rest => scanFrom rest 1
  | _ => scanFrom cs 0

end Token

end Augment.Toml
