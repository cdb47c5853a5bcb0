import Augment.Toml.Token
import Augment.Toml.Error

/-!
# The statements of a document

A document is a list of statements: `[header]` and `[[header]]` lines, and `key = value` pairs.
Reading the tokens into statements checks the document's shape and nothing of what its words
mean: keys and scalars keep their text, to be decoded when the document is built.

Where a part is missing but the shape is still clear, an empty part stands in and decoding it
reports the error later: `= 1` has an empty key, `entry =` an empty value, and `{a}` an empty
literal string for its value. Otherwise the first misplaced token is an error here, with what
was expected: a header left open, a key without `=`, a line that goes on after its value, two
array elements or inline pairs without a comma, and arrays and inline tables nested more than
`maxNesting` deep.

A scalar is one token, except that bare words and dots join into one scalar with the blanks
between them (`1.5`, `1979-05-27 07:32:00`, `1 2 3`): deciding what the words mean is left to
decoding, which then sees all of them. Blanks after the last word are not part of the scalar.

Inline tables may hold line breaks and comments between their parts, and a comma after their
last pair. A bracket or brace left open at the end of the text is reported right after the last
token that is no blank, comment or line break.

Comments may hold tabs and any character but the other controls, and a carriage return must be
followed by a line feed; both are checked where the reading passes them.
-/

namespace Augment.Toml

/-- One part of a key as written: its text, where it stands, and its quoting, none for a bare
key. -/
structure KeyPart where
  /-- The text, quotes included. -/
  text : List Char
  /-- Where it stands. -/
  span : Span
  /-- The quoting; none for a bare key. -/
  quoting : Option Quoting
  deriving Repr, Inhabited

/-- A value as written. -/
inductive ValueSyntax where
  /-- A string, number, boolean or date, with its text, where it stands and its quoting. -/
  | scalar (text : List Char) (span : Span) (quoting : Option Quoting)
  /-- An array of values. -/
  | array (items : List ValueSyntax) (span : Span)
  /-- An inline table of dotted keys and values. -/
  | inline (entries : List (List KeyPart × ValueSyntax)) (span : Span)
  deriving Repr, Inhabited

/-- A statement of a document. -/
inductive Statement where
  /-- A `[header]`, or a `[[header]]` when `isArray`, with its key and where it stands. -/
  | header (isArray : Bool) (key : List KeyPart) (span : Span)
  /-- A `key = value` pair. -/
  | keyValue (key : List KeyPart) (value : ValueSyntax)
  deriving Repr, Inhabited

/-- Reading statements: the tokens still to read, failing at the first error. -/
abbrev StatementReader := StateT (List Token) (Except TomlError)

namespace StatementReader

/-! ### Steps -/

/-- Takes the next token, if any. -/
def next : StatementReader (Option Token) := do
  match ← get with
  | t :: rest => set rest; return some t
  | [] => return none

/-- The next token, if any, left in place. -/
def peek : StatementReader (Option Token) := do
  return (← get).head?

/-- Puts a token back. -/
def pushBack (t : Token) : StatementReader Unit :=
  modify (t :: ·)

/-- Takes the next token if its kind passes a test. -/
def nextIf (p : TokenKind → Bool) : StatementReader (Option Token) := do
  match ← get with
  | t :: rest => if p t.kind then set rest; return some t else return none
  | [] => return none

/-- Skips blanks. -/
def skipBlanks : StatementReader Unit :=
  modify fun ts => ts.dropWhile (·.kind == .blank)

/-- Fails with a reading error. -/
def fail {α : Type} (what : String) (expected : Option (List Expected)) (span : Span) :
    StatementReader α :=
  throw (TomlError.reading what expected span)

/-- The characters of a stretch of the text. -/
def slice (src : Array Char) (s : Span) : List Char :=
  (src.extract s.start s.stop).toList

/-- Checks a comment's characters: tabs, visible ASCII and anything past ASCII. -/
def checkComment (src : Array Char) (t : Token) : StatementReader Unit := do
  let bad := fun (c : Char) => !(c == '\t' || (' ' ≤ c && c ≤ '~') || c.toNat ≥ 0x80)
  match (slice src t.span).findIdx? bad with
  | some i =>
    fail "invalid comment character" (some [.description "printable characters"])
      (Span.at (t.span.start + i))
  | none => pure ()

/-- Checks a line break: a carriage return alone is an error. -/
def checkNewline (src : Array Char) (t : Token) : StatementReader Unit := do
  if slice src t.span == ['\r'] then
    fail "carriage return must be followed by newline" (some [.literal "\n"]) t.span.after

/-- Passes a comment and the line break after it. -/
def comment (src : Array Char) (t : Token) : StatementReader Unit := do
  checkComment src t
  match ← nextIf (· == .newline) with
  | some nl => checkNewline src nl
  | none => pure ()

/-- A key part for a token. -/
def part (src : Array Char) (t : Token) (quoting : Option Quoting) : KeyPart :=
  { text := slice src t.span, span := t.span, quoting }

/-- The empty key part standing in for a missing one. -/
def missingPart (at_ : Span) : KeyPart :=
  { text := [], span := at_, quoting := none }

/-- The quoting of a token that may be a key or a string. -/
def quotingOf : TokenKind → Option Quoting
  | .string q => some q
  | _ => none

/-- Whether a token can be a key part or a scalar's start. -/
def isWord : TokenKind → Bool
  | .string _ | .atom => true
  | _ => false

/-- Whether a token ends a key that is missing its last part. -/
def endsKey : TokenKind → Bool
  | .equals | .comma | .leftBracket | .rightBracket | .leftBrace | .rightBrace | .comment
  | .newline | .eof => true
  | _ => false

/-! ### Keys -/

/-- Reads the part after a dot, blanks and further dots standing in for empty parts; answers
whether a part was found. -/
def partAfterDot (src : Array Char) :
    Nat → List KeyPart → StatementReader (List KeyPart × Bool)
  | 0, parts => return (parts, false)
  | fuel + 1, parts => do
    match ← next with
    | none => return (parts, false)
    | some t =>
      if endsKey t.kind then
        pushBack t
        return (parts ++ [missingPart t.span.before], false)
      else if t.kind == .blank then partAfterDot src fuel parts
      else if t.kind == .dot then partAfterDot src fuel (parts ++ [missingPart t.span.before])
      else return (parts ++ [part src t (quotingOf t.kind)], true)

/-- Reads the dotted parts after a key's first part; answers whether every part was found. -/
def dottedParts (src : Array Char) : Nat → List KeyPart → StatementReader (List KeyPart × Bool)
  | 0, parts => return (parts, true)
  | fuel + 1, parts => do
    skipBlanks
    match ← nextIf (· == .dot) with
    | none => return (parts, true)
    | some _ =>
      let (parts, found) ← partAfterDot src fuel parts
      if found then dottedParts src fuel parts else return (parts, false)

/-- Reads a header's key; answers its parts and whether every part was found. Missing parts
become empty ones. -/
def headerKey (src : Array Char) : Nat → List KeyPart → StatementReader (List KeyPart × Bool)
  | 0, parts => return (parts, false)
  | fuel + 1, parts => do
    match ← next with
    | none => return (parts, false)
    | some t =>
      if endsKey t.kind then
        pushBack t
        return (parts ++ [missingPart t.span.before], false)
      else if t.kind == .blank then headerKey src fuel parts
      else if t.kind == .dot then headerKey src fuel (parts ++ [missingPart t.span.before])
      else dottedParts src fuel (parts ++ [part src t (quotingOf t.kind)])

/-! ### Values -/

/-- Whether a token continues a bare scalar: a bare word or a dot. -/
def continuesScalar (k : TokenKind) : Bool :=
  k == .atom || k == .dot

/-- Takes the bare words and dots that follow, each perhaps after one run of blanks, and answers
where the last of them stops. -/
def joinedWords (stop : Nat) : Nat → StatementReader Nat
  | 0 => return stop
  | fuel + 1 => do
    match ← get with
    | t :: rest =>
      if continuesScalar t.kind then
        set rest
        joinedWords t.span.stop fuel
      else if t.kind == .blank then
        match rest with
        | w :: more =>
          if continuesScalar w.kind then
            set more
            joinedWords w.span.stop fuel
          else return stop
        | [] => return stop
      else return stop
    | [] => return stop

/-- Reads a scalar starting with a token: a string, or bare words and dots that join together
with the blanks between them, so that `1979-05-27 07:32:00` and `1 2 3` are one scalar each. -/
def scalar (src : Array Char) (t : Token) : StatementReader ValueSyntax := do
  match t.kind with
  | .string q => return .scalar (slice src t.span) t.span (some q)
  | _ =>
    let stop ← joinedWords t.span.stop (← get).length
    let span : Span := ⟨t.span.start, stop⟩
    return .scalar (slice src span) span none

/-- The state of reading an array. -/
inductive ArrayState where
  /-- A value or the closing bracket comes next. -/
  | needsValue
  /-- A comma or the closing bracket comes next. -/
  | needsComma
  deriving DecidableEq

/-- The state of reading an inline table. -/
inductive InlineState where
  /-- A key or the closing brace comes next. -/
  | needsKey
  /-- `=` comes next. -/
  | needsEquals
  /-- A value comes next. -/
  | needsValue
  /-- A comma or the closing brace comes next. -/
  | needsComma
  deriving DecidableEq

/-- What an inline table's state expects, in messages. -/
def InlineState.expected : InlineState → List Expected
  | .needsKey => [.description "key"]
  | .needsEquals => [.literal "="]
  | .needsValue => [.description "value"]
  | .needsComma => [.literal ","]

/-- The empty literal string standing in for a missing inline value. -/
def missingInlineValue (at_ : Span) : ValueSyntax :=
  .scalar [] at_ (some .literal)

/-- How deeply arrays and inline tables may nest inside one another. -/
def maxNesting : Nat := 80

/-- Checks that one more array or inline table, opened by the token at `span` inside `depth`
others, stays within `maxNesting`. -/
def enter (depth : Nat) (span : Span) : StatementReader Unit :=
  if maxNesting ≤ depth then fail "cannot recurse further; max recursion depth met" none span
  else pure ()

mutual

/-- Reads a value inside `depth` arrays and inline tables; blanks before it are already
skipped. A value missing before a comma, a comment or the line's end is an empty scalar.
`last` is where the last token of the text that is no blank, comment or line break stands:
a bracket or brace left open is reported right after it. -/
def value (src : Array Char) (last : Span) (depth : Nat) : Nat → StatementReader ValueSyntax
  | 0 => return .scalar [] (Span.at 0) none
  | fuel + 1 => do
    match ← next with
    | none => return .scalar [] (Span.at 0) none
    | some t =>
      match t.kind with
      | .comment | .comma | .newline | .eof | .blank =>
        pushBack t
        return .scalar [] t.span.before none
      | .equals => fail "extra `=`" (some []) t.span
      | .leftBrace =>
        enter depth t.span
        inlineTable src last (depth + 1) fuel t.span InlineState.needsKey [] []
      | .rightBrace => fail "missing inline table opening" (some [.literal "\x7b"]) t.span.before
      | .leftBracket =>
        enter depth t.span
        array src last (depth + 1) fuel t.span ArrayState.needsValue []
      | .rightBracket => fail "missing array opening" (some [.literal "["]) t.span.before
      | _ => scalar src t

/-- Reads an array's elements after its opening bracket, up to its closing one; the array is the
innermost of `depth`. -/
def array (src : Array Char) (last : Span) (depth : Nat) :
    Nat → Span → ArrayState → List ValueSyntax → StatementReader ValueSyntax
  | 0, o, _, items => return .array items.reverse o
  | fuel + 1, o, state, items => do
    let some t ← next | fail "unclosed array" (some [.literal "]"]) last.after
    let missingComma : StatementReader Unit :=
      if state == .needsComma then
        fail "missing comma between array elements" (some [.literal ","]) t.span.before
      else pure ()
    match t.kind with
    | .comment => comment src t; array src last depth fuel o state items
    | .blank => array src last depth fuel o state items
    | .newline => checkNewline src t; array src last depth fuel o state items
    | .eof => fail "unclosed array" (some [.literal "]"]) last.after
    | .comma =>
      if state == .needsComma then array src last depth fuel o .needsValue items
      else fail "extra comma in array" (some [.description "value"]) t.span
    | .equals => fail "unexpected `=` in array" (some [.description "value", .literal "]"]) t.span
    | .leftBrace =>
      missingComma
      enter depth t.span
      let v ← inlineTable src last (depth + 1) fuel t.span .needsKey [] []
      array src last depth fuel o .needsComma (v :: items)
    | .rightBrace =>
      missingComma
      fail "missing inline table opening" (some [.literal "\x7b"]) t.span.before
    | .leftBracket =>
      missingComma
      enter depth t.span
      let v ← array src last (depth + 1) fuel t.span .needsValue []
      array src last depth fuel o .needsComma (v :: items)
    | .rightBracket => return .array items.reverse ⟨o.start, t.span.stop⟩
    | _ =>
      missingComma
      let v ← scalar src t
      array src last depth fuel o .needsComma (v :: items)

/-- Reads an inline table's pairs after its opening brace, up to its closing one; `key` holds
the parts of the key whose value comes next. The table is the innermost of `depth`. Blanks,
line breaks and comments may stand between its parts. -/
def inlineTable (src : Array Char) (last : Span) (depth : Nat) : Nat → Span → InlineState →
    List KeyPart → List (List KeyPart × ValueSyntax) → StatementReader ValueSyntax
  | 0, o, _, _, entries => return .inline entries.reverse o
  | fuel + 1, o, state, key, entries => do
    let some t ← next | fail "unclosed inline table" (some [.literal "\x7d"]) last.after
    let close := fun (entries : List (List KeyPart × ValueSyntax)) =>
      (pure (.inline entries.reverse ⟨o.start, t.span.stop⟩) : StatementReader ValueSyntax)
    let misplaced := fun (what : String) =>
      (fail what (some state.expected) t.span.before : StatementReader ValueSyntax)
    match t.kind with
    | .comment => comment src t; inlineTable src last depth fuel o state key entries
    | .blank => inlineTable src last depth fuel o state key entries
    | .newline => checkNewline src t; inlineTable src last depth fuel o state key entries
    | .eof => fail "unclosed inline table" (some [.literal "\x7d"]) last.after
    | .comma =>
      if state == .needsComma then inlineTable src last depth fuel o .needsKey [] entries
      else misplaced "extra comma in inline table"
    | .equals =>
      match state with
      | .needsKey =>
        inlineTable src last depth fuel o .needsValue [missingPart t.span.before] entries
      | .needsEquals => inlineTable src last depth fuel o .needsValue key entries
      | _ => misplaced "extra assignment between key-value pairs"
    | .leftBrace =>
      match state with
      | .needsValue =>
        enter depth t.span
        let v ← inlineTable src last (depth + 1) fuel t.span .needsKey [] []
        inlineTable src last depth fuel o .needsComma [] ((key, v) :: entries)
      | .needsEquals => misplaced "missing assignment between key-value pairs"
      | _ => misplaced "missing key for inline table element"
    | .leftBracket =>
      match state with
      | .needsValue =>
        enter depth t.span
        let v ← array src last (depth + 1) fuel t.span .needsValue []
        inlineTable src last depth fuel o .needsComma [] ((key, v) :: entries)
      | .needsEquals => misplaced "missing assignment between key-value pairs"
      | _ => misplaced "missing key for inline table element"
    | .rightBracket =>
      match state with
      | .needsValue => fail "missing array opening" (some [.literal "["]) t.span.before
      | _ => misplaced "invalid inline table element"
    | .rightBrace =>
      match state with
      | .needsKey | .needsComma => close entries
      | .needsEquals | .needsValue => close ((key, missingInlineValue t.span.before) :: entries)
    | .dot =>
      match state with
      | .needsKey | .needsEquals =>
        pushBack t
        let start := if state == .needsKey then [missingPart t.span.before] else key
        let (parts, _) ← dottedParts src fuel start
        inlineTable src last depth fuel o .needsEquals parts entries
      | .needsValue =>
        let v ← scalar src t
        inlineTable src last depth fuel o .needsComma [] ((key, v) :: entries)
      | .needsComma =>
        fail "missing comma between key-value pairs" (some [.literal ","]) t.span.before
    | _ =>
      match state with
      | .needsKey =>
        let (parts, _) ← dottedParts src fuel [part src t (quotingOf t.kind)]
        inlineTable src last depth fuel o .needsEquals parts entries
      | .needsEquals => misplaced "missing assignment between key-value pairs"
      | .needsValue =>
        let v ← scalar src t
        inlineTable src last depth fuel o .needsComma [] ((key, v) :: entries)
      | .needsComma =>
        fail "missing comma between key-value pairs" (some [.literal ","]) t.span.before

end

/-! ### Lines -/

/-- Reads the end of a line after its content: blanks, then a comment, a line break or the end
of the text. -/
def lineEnd (src : Array Char) : Nat → StatementReader Unit
  | 0 => pure ()
  | fuel + 1 => do
    match ← next with
    | none => pure ()
    | some t =>
      match t.kind with
      | .comment => comment src t
      | .blank => lineEnd src fuel
      | .newline => checkNewline src t
      | .eof => pure ()
      | _ => fail "unexpected key or value" (some [.literal "\n", .literal "#"]) t.span.before

/-- Passes the rest of a line that holds no more statement. -/
def skipLine (src : Array Char) : Nat → StatementReader Unit
  | 0 => pure ()
  | fuel + 1 => do
    match ← next with
    | none => pure ()
    | some t =>
      match t.kind with
      | .comment => comment src t
      | .newline => checkNewline src t
      | .eof => pure ()
      | _ => skipLine src fuel

/-- Reads a `[header]` or `[[header]]` after its first bracket. -/
def header (src : Array Char) (o : Token) : StatementReader Statement := do
  let fuel := (← get).length + 1
  let isArray := (← nextIf (· == .leftBracket)).isSome
  skipBlanks
  let before ← get
  let (key, found) ← headerKey src fuel []
  -- the last token of the key, for a header left open
  let consumed := before.take (before.length - (← get).length)
  let last := ((consumed.filter (·.kind != .blank)).getLast?.map (·.span)).getD o.span
  skipBlanks
  match ← nextIf (· == .rightBracket) with
  | some close =>
    if isArray then
      match ← nextIf (· == .rightBracket) with
      | some close2 =>
        lineEnd src fuel
        return .header true key ⟨o.span.start, close2.span.stop⟩
      | none => fail "unclosed array table" (some [.literal "]"]) close.span.after
    else
      lineEnd src fuel
      return .header false key ⟨o.span.start, close.span.stop⟩
  | none =>
    if found then
      fail (if isArray then "unclosed array table" else "unclosed table")
        (some [.literal (if isArray then "]]" else "]")]) last.after
    else
      skipLine src fuel
      return .header isArray key o.span

/-- Reads a key-value pair's `=`, value and line end, after its key; `dotFirst` when the key
began with a dot, which changes how a missing `=` is reported. -/
def keyValue (src : Array Char) (last : Span) (dotFirst : Bool) (key : List KeyPart) :
    StatementReader Statement := do
  let fuel := (← get).length + 1
  skipBlanks
  match ← nextIf (· == .equals) with
  | none =>
    let at_ := ((← peek).map (·.span.before)).getD (Span.at 0)
    fail (if dotFirst then "missing value for key" else "key with no value") (some [.literal "="])
      at_
  | some _ =>
    skipBlanks
    let v ← value src last 0 fuel
    lineEnd src fuel
    return .keyValue key v

/-- Reads the statements of a document. -/
def statements (src : Array Char) (last : Span) :
    Nat → List Statement → StatementReader (List Statement)
  | 0, acc => return acc.reverse
  | fuel + 1, acc => do
    match ← next with
    | none => return acc.reverse
    | some t =>
      match t.kind with
      | .eof => return acc.reverse
      | .blank => statements src last fuel acc
      | .newline => checkNewline src t; statements src last fuel acc
      | .comment => comment src t; statements src last fuel acc
      | .leftBracket =>
        let s ← header src t
        statements src last fuel (s :: acc)
      | .rightBracket => fail "missing table open" (some [.literal "["]) t.span.before
      | .comma | .leftBrace | .rightBrace =>
        fail "invalid key-value pair" (some [.description "key"]) t.span.before
      | .equals =>
        pushBack t
        let s ← keyValue src last false [missingPart t.span.before]
        statements src last fuel (s :: acc)
      | .dot =>
        pushBack t
        let (key, _) ← dottedParts src fuel [missingPart t.span.before]
        let s ← keyValue src last true key
        statements src last fuel (s :: acc)
      | _ =>
        let (key, _) ← dottedParts src fuel [part src t (quotingOf t.kind)]
        let s ← keyValue src last false key
        statements src last fuel (s :: acc)

end StatementReader

/-- The statements of a document's text, or the first error in its shape. -/
def Statement.read (text : String) : Except TomlError (List Statement) :=
  let src := text.toList.toArray
  let tokens := Token.scan text.toList
  let words := tokens.filter fun t =>
    !(t.kind == .blank || t.kind == .comment || t.kind == .newline || t.kind == .eof)
  let last := (words.getLast?.map (·.span)).getD (Span.at 0)
  (StatementReader.statements src last (tokens.length + 1) []).run' tokens

end Augment.Toml
