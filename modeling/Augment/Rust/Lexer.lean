import Augment.Rust.Token
import Augment.Text.Property.Identifier
import Augment.Text.Property.Letter
import Augment.Text.Quoted

/-!
# Lexing

Source text to token trees. Blanks and comments between tokens are skipped; a doc comment becomes
the attribute it stands for (`/// text` is `#[doc = " text"]`, `//! text` is `#![doc = " text"]`).
Delimiters must nest: an unmatched or mismatched closing delimiter, a group left open, or text
that starts no token is a lexing error, reported at the offending character (for a group left
open, at its opening delimiter).

Each recognizer below reads the characters at the front of the input and answers how many
characters its token takes, or `none` when no token of its kind starts there. A token that could
be read two ways is read by the first recognizer that accepts it: literals, then punctuation,
then identifiers.
-/

namespace Augment.Rust

open Augment.Text

/-! ### Positions -/

/-- The position after reading the given characters. -/
def Pos.advance (p : Pos) : List Char → Pos
  | [] => p
  | c :: rest =>
    (if c == '\n' then ({ line := p.line + 1, column := 0 } : Pos)
      else { p with column := p.column + 1 }).advance rest

/-- Whether the characters start with the given text. -/
def startsWithText (cs : List Char) (t : String) : Bool :=
  t.toList.isPrefixOf cs

/-! ### Identifiers -/

/-- The length of a plain identifier at the front, if one starts there. -/
def identNotRawLen : List Char → Option Nat
  | c :: rest => if isIdentStart c then some (1 + (rest.takeWhile isIdentContinue).length) else none
  | [] => none

/-- Words that cannot be raw identifiers. -/
def rawForbidden : List String := ["_", "super", "self", "Self", "crate"]

/-- The length of an identifier at the front, plain or raw (`r#name`). -/
def identAnyLen (cs : List Char) : Option Nat :=
  if startsWithText cs "r#" then
    match identNotRawLen (cs.drop 2) with
    | some n =>
      if rawForbidden.contains (String.ofList ((cs.drop 2).take n)) then none else some (n + 2)
    | none => none
  else identNotRawLen cs

/-- Prefixes that start a string-like literal rather than an identifier. -/
def literalPrefixes : List String :=
  ["r\"", "r#\"", "r##", "b\"", "b'", "br\"", "br#", "c\"", "cr\"", "cr#"]

/-- The length of an identifier token at the front. -/
def identLen (cs : List Char) : Option Nat :=
  if literalPrefixes.any (startsWithText cs) then none else identAnyLen cs

/-- The length of the optional suffix of a literal (`u8` in `1u8`). -/
def suffixLen (cs : List Char) : Nat :=
  (identNotRawLen cs).getD 0

/-! ### Escapes -/

/-- Which quoted literal an escape stands in. -/
inductive QuoteKind where
  | text
  | bytes
  | cText
  deriving DecidableEq, Repr

/-- Whether a character is a hexadecimal digit. -/
def isHexDigit (c : Char) : Bool := (hexDigitValue c).isSome

/-- The length and value of a `\u{…}` escape after the `u`: up to six hexadecimal digits,
underscores after the first digit, and a closing brace; the value must be a character. -/
def unicodeEscapeFrom (len value consumed : Nat) : List Char → Option (Nat × Nat)
  | [] => none
  | c :: rest =>
    if c == '_' && len > 0 then unicodeEscapeFrom len value (consumed + 1) rest
    else if c == '}' && len > 0 then
      if value ≤ 0x10FFFF && !(0xD800 ≤ value && value ≤ 0xDFFF) then some (consumed + 1, value)
      else none
    else match hexDigitValue c with
      | some d => if len == 6 then none else unicodeEscapeFrom (len + 1) (value * 16 + d) (consumed + 1) rest
      | none => none

/-- The length and value of a `\u{…}` escape, the input starting after the `u`. -/
def unicodeEscapeLen : List Char → Option (Nat × Nat)
  | '{' :: rest => (unicodeEscapeFrom 0 0 1 rest).map fun (n, v) => (n, v)
  | _ => none

/-- The length of an escape after its backslash, other than a line continuation. -/
def escapeLen (k : QuoteKind) : List Char → Option Nat
  | 'x' :: a :: b :: _ =>
    match k with
    | .text => if '0' ≤ a && a ≤ '7' && isHexDigit b then some 3 else none
    | .bytes => if isHexDigit a && isHexDigit b then some 3 else none
    | .cText =>
      if isHexDigit a && isHexDigit b && !(a == '0' && b == '0') then some 3 else none
  | 'u' :: rest =>
    match k, unicodeEscapeLen rest with
    | .text, some (n, _) => some (n + 1)
    | .cText, some (n, v) => if v == 0 then none else some (n + 1)
    | _, _ => none
  | c :: _ =>
    if c == 'n' || c == 'r' || c == 't' || c == '\\' || c == '\'' || c == '"' then some 1
    else if c == '0' && k != .cText then some 1
    else none
  | [] => none

/-- The length of the blanks after a line continuation, stopping before the first other
character; `last` is the character read before them. A carriage return must be followed by a
line feed, and the text must not end. -/
def continuationLen (last : Char) : List Char → Option Nat
  | [] => none
  | c :: rest =>
    if last == '\r' then
      if c == '\n' then (continuationLen '\n' rest).map (· + 1) else none
    else if c == ' ' || c == '\t' || c == '\n' || c == '\r' then
      (continuationLen c rest).map (· + 1)
    else some 0

/-! ### Quoted literals -/

/-- The length of what follows a backslash in a quoted literal: a line continuation with the
blanks after it, or an escape. -/
def afterBackslashLen (k : QuoteKind) (rest : List Char) : Option Nat :=
  match rest with
  | '\n' :: r => (continuationLen '\n' r).map (· + 1)
  | '\r' :: r => (continuationLen '\r' r).map (· + 1)
  | _ => escapeLen k rest

/-- The length of the body of a quoted literal after its opening quote, up to and including the
closing quote. -/
def quotedBodyLen (k : QuoteKind) : List Char → Option Nat
  | [] => none
  | c :: rest =>
    if c == '"' then some 1
    else if c == '\r' then
      match rest with
      | '\n' :: r => (quotedBodyLen k r).map (· + 2)
      | _ => none
    else if c == '\\' then
      match afterBackslashLen k rest with
      | some n =>
        have : (rest.drop n).length < rest.length + 1 := by simp only [List.length_drop]; omega
        (quotedBodyLen k (rest.drop n)).map (· + 1 + n)
      | none => none
    else if k == .bytes && c.toNat ≥ 128 then none
    else if k == .cText && c.toNat == 0 then none
    else (quotedBodyLen k rest).map (· + 1)
termination_by cs => cs.length
decreasing_by all_goals (simp only [List.length_drop, List.length_cons]; omega)

/-- The length of a raw literal's body after its opening quote, up to and including the closing
quote and its `hashes` hash signs. -/
def rawBodyLen (k : QuoteKind) (hashes : Nat) : List Char → Option Nat
  | [] => none
  | c :: rest =>
    if c == '"' && (List.replicate hashes '#').isPrefixOf rest then some (1 + hashes)
    else if c == '\r' then
      match rest with
      | '\n' :: r => (rawBodyLen k hashes r).map (· + 2)
      | _ => none
    else if k == .bytes && c.toNat ≥ 128 then none
    else if k == .cText && c.toNat == 0 then none
    else (rawBodyLen k hashes rest).map (· + 1)

/-- The length of a raw literal after its `r`: at most 255 hash signs, a quote, the body. -/
def rawLen (k : QuoteKind) (cs : List Char) : Option Nat :=
  let hashes := (cs.takeWhile (· == '#')).length
  match cs.drop hashes with
  | '"' :: body =>
    if hashes > 255 then none else (rawBodyLen k hashes body).map (· + hashes + 1)
  | _ => none

/-- The length of a quoted or raw literal of kind `k`, after its prefix letters, with its
suffix. -/
def withSuffix (cs : List Char) (n : Option Nat) : Option Nat :=
  n.map fun n => n + suffixLen (cs.drop n)

/-- The length of a string literal: `"…"` or `r#"…"#`. -/
def stringLen (cs : List Char) : Option Nat :=
  match cs with
  | '"' :: rest => withSuffix cs ((quotedBodyLen .text rest).map (· + 1))
  | 'r' :: rest => withSuffix cs ((rawLen .text rest).map (· + 1))
  | _ => none

/-- The length of a byte string literal: `b"…"` or `br#"…"#`. -/
def byteStringLen (cs : List Char) : Option Nat :=
  match cs with
  | 'b' :: '"' :: rest => withSuffix cs ((quotedBodyLen .bytes rest).map (· + 2))
  | 'b' :: 'r' :: rest => withSuffix cs ((rawLen .bytes rest).map (· + 2))
  | _ => none

/-- The length of a C string literal: `c"…"` or `cr#"…"#`. -/
def cStringLen (cs : List Char) : Option Nat :=
  match cs with
  | 'c' :: '"' :: rest => withSuffix cs ((quotedBodyLen .cText rest).map (· + 2))
  | 'c' :: 'r' :: rest => withSuffix cs ((rawLen .cText rest).map (· + 2))
  | _ => none

/-- The length of one character or escape of a character literal, then its closing quote. -/
def quotedCharLen (k : QuoteKind) : List Char → Option Nat
  | '\\' :: rest =>
    let esc := match k, rest with
      | .bytes, 'u' :: _ => none
      | _, _ => escapeLen k rest
    match esc with
    | some n => if startsWithText (rest.drop n) "'" then some (n + 2) else none
    | none => none
  | c :: rest =>
    if k == .bytes && c.toNat ≥ 128 then none
    else if startsWithText rest "'" then some 2 else none
  | [] => none

/-- The length of a byte literal `b'…'`. -/
def byteLen (cs : List Char) : Option Nat :=
  match cs with
  | 'b' :: '\'' :: rest => withSuffix cs ((quotedCharLen .bytes rest).map (· + 2))
  | _ => none

/-- The length of a character literal `'…'`. -/
def charLen (cs : List Char) : Option Nat :=
  match cs with
  | '\'' :: rest => withSuffix cs ((quotedCharLen .text rest).map (· + 1))
  | _ => none

/-! ### Numbers -/

/-- Whether the text after a number lets the number end: no identifier character follows. -/
def wordBreak (cs : List Char) : Bool :=
  match cs with
  | c :: _ => !isIdentContinue c
  | [] => true

/-- The length of the exponent digits after `e` and an optional sign, with whether any digit was
read; `None` when a second sign appears before a digit. -/
def exponentLen (signSeen digitSeen : Bool) (n : Nat) : List Char → Option (Nat × Bool)
  | [] => some (n, digitSeen)
  | c :: rest =>
    if c == '+' || c == '-' then
      if digitSeen then some (n, digitSeen)
      else if signSeen then none
      else exponentLen true digitSeen (n + 1) rest
    else if c.isDigit then exponentLen signSeen true (n + 1) rest
    else if c == '_' then exponentLen signSeen digitSeen (n + 1) rest
    else some (n, digitSeen)

/-- The state of a number with a fraction or exponent: what has been read so far. -/
def floatDigitsFrom (hasDot : Bool) (n : Nat) : List Char → Option (Nat × Bool × Bool)
  | [] => some (n, hasDot, false)
  | c :: rest =>
    if c.isDigit || c == '_' then floatDigitsFrom hasDot (n + 1) rest
    else if c == '.' then
      if hasDot then some (n, hasDot, false)
      else match rest with
        | d :: _ => if d == '.' || isIdentStart d then none else floatDigitsFrom true (n + 1) rest
        | [] => floatDigitsFrom true (n + 1) rest
    else if c == 'e' || c == 'E' then some (n + 1, hasDot, true)
    else some (n, hasDot, false)

/-- The length of the digits of a floating-point literal, which needs a point or an exponent. -/
def floatDigitsLen (cs : List Char) : Option Nat :=
  match cs with
  | c :: rest =>
    if !c.isDigit then none
    else match floatDigitsFrom false 1 rest with
      | none => none
      | some (n, hasDot, hasExp) =>
        if !(hasDot || hasExp) then none
        else if !hasExp then some n
        else
          -- the part before the `e` stands alone when the exponent is malformed
          let before := if hasDot then some (n - 1) else none
          match exponentLen false false n (cs.drop n) with
          | none => before
          | some (m, digits) => if digits then some m else before
  | [] => none

/-- The length of a floating-point literal with its suffix. -/
def floatLen (cs : List Char) : Option Nat :=
  match floatDigitsLen cs with
  | none => none
  | some n =>
    let n' := match (cs.drop n).head? with
      | some c => if isIdentStart c then (identNotRawLen (cs.drop n)).map (n + ·) else some n
      | none => some n
    match n' with
    | some m => if wordBreak (cs.drop m) then some m else none
    | none => none

/-- The digits of an integer in the given base: their count, and whether any was a digit. -/
def intDigitsFrom (base : Nat) (n : Nat) (empty : Bool) : List Char → Option (Nat × Bool)
  | [] => some (n, empty)
  | c :: rest =>
    if c.isDigit then
      if c.toNat - '0'.toNat ≥ base then none else intDigitsFrom base (n + 1) false rest
    else if ('a' ≤ c && c ≤ 'f') || ('A' ≤ c && c ≤ 'F') then
      if base ≤ 10 then some (n, empty) else intDigitsFrom base (n + 1) false rest
    else if c == '_' then
      if empty && base == 10 then none else intDigitsFrom base (n + 1) empty rest
    else some (n, empty)

/-- The length of the digits of an integer literal, with its base prefix. -/
def intDigitsLen (cs : List Char) : Option Nat :=
  let (pre, base) :=
    if startsWithText cs "0x" then (2, 16)
    else if startsWithText cs "0o" then (2, 8)
    else if startsWithText cs "0b" then (2, 2)
    else (0, 10)
  match intDigitsFrom base 0 true (cs.drop pre) with
  | some (n, false) => some (pre + n)
  | _ => none

/-- The length of an integer literal with its suffix. -/
def intLen (cs : List Char) : Option Nat :=
  match intDigitsLen cs with
  | none => none
  | some n =>
    let n' := match (cs.drop n).head? with
      | some c => if isIdentStart c then (identNotRawLen (cs.drop n)).map (n + ·) else some n
      | none => some n
    match n' with
    | some m => if wordBreak (cs.drop m) then some m else none
    | none => none

/-- The length of a literal at the front, trying the kinds in order. -/
def literalLen (cs : List Char) : Option Nat :=
  (stringLen cs).orElse fun _ => (byteStringLen cs).orElse fun _ => (cStringLen cs).orElse
    fun _ => (byteLen cs).orElse fun _ => (charLen cs).orElse fun _ => (floatLen cs).orElse
    fun _ => intLen cs

/-! ### Punctuation -/

/-- The punctuation characters. -/
def punctChars : List Char :=
  ['~', '!', '@', '#', '$', '%', '^', '&', '*', '-', '=', '+', '|', ';', ':', ',', '<', '.',
    '>', '/', '?', '\'']

/-- The punctuation character at the front, unless it starts a comment. -/
def punctCharAt (cs : List Char) : Option Char :=
  if startsWithText cs "//" || startsWithText cs "/*" then none
  else match cs with
    | c :: _ => if punctChars.contains c then some c else none
    | [] => none

/-- The punctuation character at the front and its spacing. A quote is punctuation only as the
start of a lifetime (`'a`), and is then joint. -/
def punctAt (cs : List Char) : Option (Char × Spacing) :=
  match punctCharAt cs with
  | none => none
  | some c =>
    let rest := cs.drop 1
    if c == '\'' then
      match identAnyLen rest with
      | some n =>
        let after := rest.drop n
        if startsWithText after "'" || (startsWithText after "#" && !startsWithText rest "r#") then
          none
        else some ('\'', .joint)
      | none => none
    else some (c, if (punctCharAt rest).isSome then .joint else .alone)

/-! ### Comments and blanks -/

/-- The length of a block comment from depth `depth`, nested comments included. -/
def blockCommentFrom (depth n : Nat) : List Char → Option Nat
  | '/' :: '*' :: rest => blockCommentFrom (depth + 1) (n + 2) rest
  | '*' :: '/' :: rest =>
    if depth ≤ 1 then some (n + 2) else blockCommentFrom (depth - 1) (n + 2) rest
  | _ :: rest => blockCommentFrom depth (n + 1) rest
  | [] => none

/-- The length of a block comment at the front. -/
def blockCommentLen (cs : List Char) : Option Nat :=
  if startsWithText cs "/*" then blockCommentFrom 0 0 cs else none

/-- The characters up to the end of the line, and how many characters the line takes with its
line ending (a carriage return before the line feed belongs to the ending). -/
def lineRest (cs : List Char) : List Char × Nat :=
  let body := cs.takeWhile (· != '\n')
  let n := body.length
  match body.reverse with
  | '\r' :: r => if (cs.drop n).isEmpty then (body, n) else (r.reverse, n)
  | _ => (body, n)

/-- Whether a character is a blank between tokens. -/
def isBlankChar (c : Char) : Bool :=
  c == ' ' || (9 ≤ c.toNat && c.toNat ≤ 13) ||
    (c.toNat ≥ 128 && (isWhiteSpace c || c.toNat == 0x200E || c.toNat == 0x200F))

/-- Whether the front is a line comment that is not a doc comment. -/
def isPlainLineComment (cs : List Char) : Bool :=
  startsWithText cs "//" && (!startsWithText cs "///" || startsWithText cs "////") &&
    !startsWithText cs "//!"

/-- Whether the front is a block comment that is not a doc comment. -/
def isPlainBlockComment (cs : List Char) : Bool :=
  startsWithText cs "/*" && (!startsWithText cs "/**" || startsWithText cs "/***") &&
    !startsWithText cs "/*!"

/-- The number of characters of blanks and plain comments at the front. A block comment that
does not end stops the skipping. -/
def skipLen : List Char → Nat
  | '/' :: '/' :: rest =>
    if isPlainLineComment ('/' :: '/' :: rest) then
      let m := (rest.takeWhile (· != '\n')).length
      have : (rest.drop m).length < rest.length + 2 := by simp only [List.length_drop]; omega
      2 + m + skipLen (rest.drop m)
    else 0
  | '/' :: '*' :: '*' :: '/' :: rest => 4 + skipLen rest
  | '/' :: '*' :: rest =>
    if isPlainBlockComment ('/' :: '*' :: rest) then
      match blockCommentLen ('/' :: '*' :: rest) with
      | some n =>
        have : (rest.drop (n - 2)).length < rest.length + 2 := by
          simp only [List.length_drop]; omega
        2 + (n - 2) + skipLen (rest.drop (n - 2))
      | none => 0
    else 0
  | c :: rest => if isBlankChar c then 1 + skipLen rest else 0
  | [] => 0
termination_by cs => cs.length
decreasing_by all_goals (simp only [List.length_drop, List.length_cons]; omega)

/-- A doc comment at the front: its length, its text and whether it is an inner one. -/
def docCommentAt (cs : List Char) : Option (Nat × List Char × Bool) :=
  if startsWithText cs "//!" then
    let (body, n) := lineRest (cs.drop 3)
    some (n + 3, body, true)
  else if startsWithText cs "/*!" then
    (blockCommentLen cs).map fun n => (n, ((cs.take n).drop 3).take (n - 5), true)
  else if startsWithText cs "///" then
    if startsWithText (cs.drop 3) "/" then none
    else
      let (body, n) := lineRest (cs.drop 3)
      some (n + 3, body, false)
  else if startsWithText cs "/**" && !startsWithText (cs.drop 3) "*" then
    (blockCommentLen cs).map fun n => (n, ((cs.take n).drop 3).take (n - 5), false)
  else none

/-- Whether a comment's text has a carriage return that no line feed follows. -/
def hasBareCr : List Char → Bool
  | '\r' :: '\n' :: rest => hasBareCr rest
  | '\r' :: _ => true
  | _ :: rest => hasBareCr rest
  | [] => false

/-- The attribute tokens that a doc comment stands for. -/
def docTokens (text : List Char) (inner : Bool) (pos : Pos) : List TokenTree :=
  let body := [TokenTree.ident "doc" pos, .punct '=' .alone pos,
    .literal (stringLiteralText (String.ofList text)) pos]
  [TokenTree.punct '#' .alone pos] ++ (if inner then [TokenTree.punct '!' .alone pos] else []) ++
    [TokenTree.group .bracket body pos pos]

/-! ### The token stream -/

/-- A group being read: its delimiter, where it opened, and the tokens before it, backwards. -/
structure OpenGroup where
  delim : Delimiter
  openPos : Pos
  outer : List TokenTree

/-- The delimiter a character opens. -/
def openingDelimiter (c : Char) : Option Delimiter :=
  if c == '(' then some .paren else if c == '[' then some .bracket
  else if c == '{' then some .brace else none

/-- The delimiter a character closes. -/
def closingDelimiter (c : Char) : Option Delimiter :=
  if c == ')' then some .paren else if c == ']' then some .bracket
  else if c == '}' then some .brace else none

/-- The text that stands for a literal that failed to be produced; it reads as one literal
token, not as a parenthesized group. -/
def errorLiteral : String := "(/*ERROR*/)"

/-- The token that starts at the front, with its length, or `none` when no token starts there. -/
def leafAt (cs : List Char) (pos : Pos) : Option (Nat × TokenTree) :=
  match literalLen cs with
  | some n => some (n, .literal (String.ofList (cs.take n)) pos)
  | none =>
    match punctAt cs with
    | some (c, sp) => some (1, .punct c sp pos)
    | none =>
      match identLen cs with
      | some n => some (n, .ident (String.ofList (cs.take n)) pos)
      | none =>
        if startsWithText cs errorLiteral then some (errorLiteral.length, .literal errorLiteral pos)
        else none

/-- Reads tokens from `cs` at `pos`, with the tokens of the innermost open group so far in
`acc` (backwards) and the open groups in `stack`, innermost first. -/
def lexFrom (cs : List Char) (pos : Pos) (acc : List TokenTree) (stack : List OpenGroup) :
    Except Pos (List TokenTree) :=
  let k := skipLen cs
  let rest := cs.drop k
  let pos := pos.advance (cs.take k)
  match h : rest with
  | [] =>
    match stack with
    | [] => .ok acc.reverse
    | g :: _ => .error g.openPos
  | c :: more =>
    have hk : rest.length ≤ cs.length := by simp only [rest, List.length_drop]; omega
    let step := fun (n : Nat) => max n 1
    match docCommentAt rest with
    | some (n, text, inner) =>
      if hasBareCr text then .error pos
      else
        have : (rest.drop (step n)).length < cs.length := by
          simp only [List.length_drop, step]; rw [h] at hk ⊢; simp only [List.length_cons] at hk ⊢; omega
        lexFrom (rest.drop (step n)) (pos.advance (rest.take (step n)))
          ((docTokens text inner pos).reverse ++ acc) stack
    | none =>
      match if startsWithText rest errorLiteral then none else openingDelimiter c with
      | some d =>
        have : more.length < cs.length := by rw [h] at hk; simp only [List.length_cons] at hk; omega
        lexFrom more (pos.advance [c]) [] (⟨d, pos, acc⟩ :: stack)
      | none =>
        match closingDelimiter c with
        | some d =>
          match stack with
          | [] => .error pos
          | g :: outer =>
            if g.delim != d then .error pos
            else
              have : more.length < cs.length := by rw [h] at hk; simp only [List.length_cons] at hk; omega
              lexFrom more (pos.advance [c]) (.group d acc.reverse g.openPos pos :: g.outer) outer
        | none =>
          match leafAt rest pos with
          | some (n, t) =>
            have : (rest.drop (step n)).length < cs.length := by
              simp only [List.length_drop, step]; rw [h] at hk ⊢; simp only [List.length_cons] at hk ⊢; omega
            lexFrom (rest.drop (step n)) (pos.advance (rest.take (step n))) (t :: acc) stack
          | none => .error pos
termination_by cs.length
decreasing_by all_goals assumption

/-- The token trees of a source text, or the position of the first lexing error. A leading byte
order mark is skipped (and counts as a column). -/
def lex (s : String) : Except Pos TokenStream :=
  match s.toList with
  | c :: rest =>
    if c.toNat == 0xFEFF then lexFrom rest { line := 1, column := 1 } [] []
    else lexFrom (c :: rest) {} [] []
  | [] => .ok []

end Augment.Rust
