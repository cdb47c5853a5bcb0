import Augment.Rust.Syntax.Lit

/-!
# Reading token trees

A parse reads the token trees of one nesting level from left to right. Entering a group starts
a nested read of the group's contents whose *scope* is the group's closing delimiter: an error
at the end of the contents points there. At the top level the scope is the start of the input.

Errors have two shapes. An error *at the cursor* names what was expected; at the end of the
input it begins with "unexpected end of input, " and points at the scope. An error for a
missing operator (`expected ";"`) points at the next token, or at the scope, without that
prefix.

A group whose contents are not all read leaves a *stray* token behind. The first stray token
is remembered, and is reported only when the whole parse otherwise succeeds ("unexpected
token, expected `)`"). A speculative parse that is abandoned forgets its stray tokens with
everything else.

Peeking at the second or third token counts a lifetime (`'a`) as one token.
-/

namespace Augment.Rust

/-- A located syntax error. -/
structure SyntaxError where
  /-- Where the error points. -/
  pos : Pos
  /-- What went wrong. -/
  message : String
  deriving Repr, Inhabited

/-- The state of a parse: the tokens left at this level, the scope, and the first stray token
of a finished group, with that group's delimiter. -/
structure Cursor where
  /-- The token trees not yet read at this level. -/
  rest : TokenStream
  /-- Where an error at the end of this level points. -/
  scope : Pos
  /-- The first token left unread inside a finished group. -/
  stray : Option (Pos × Delimiter) := none

/-- A parse: reads tokens from the cursor, or fails with a syntax error. -/
abbrev Parse := StateT Cursor (Except SyntaxError)

/-! ### Keywords -/

/-- The words that are not identifiers: the keywords, strict and reserved, and `_`. -/
def keywords : List String :=
  ["_", "abstract", "as", "async", "await", "become", "box", "break", "const", "continue",
   "crate", "do", "dyn", "else", "enum", "extern", "false", "final", "fn", "for", "if", "impl",
   "in", "let", "loop", "macro", "match", "mod", "move", "mut", "override", "priv", "pub", "ref",
   "return", "Self", "self", "static", "struct", "super", "trait", "true", "try", "type",
   "typeof", "unsafe", "unsized", "use", "virtual", "where", "while", "yield"]

/-- Whether an identifier token may stand where an identifier is expected. -/
def acceptsAsIdent (s : String) : Bool := !keywords.contains s

/-! ### Looking at a token stream -/

namespace TokenStream

/-- The stream after its first token tree; a lifetime counts as one tree. -/
def skipTree : TokenStream → TokenStream
  | .punct '\'' .joint _ :: .ident _ _ :: rest => rest
  | _ :: rest => rest
  | [] => []

/-- Whether the stream starts with the operator spelled by `cs`: every character but the last
joint to the next. An apostrophe is never an operator character. -/
def startsOpChars : TokenStream → List Char → Bool
  | .punct c sp _ :: rest, d :: ds =>
    c == d && c != '\'' &&
      match ds with
      | [] => true
      | _ => sp == .joint && startsOpChars rest ds
  | _, _ => false

/-- Whether the stream starts with the operator `op`. -/
def startsOp (ts : TokenStream) (op : String) : Bool := startsOpChars ts op.toList

/-- Whether the stream starts with the identifier or keyword `word`. -/
def startsWord (ts : TokenStream) (word : String) : Bool :=
  match ts with
  | .ident s _ :: _ => s == word
  | _ => false

/-- Whether the stream starts with an identifier that is not a keyword. -/
def startsIdent : TokenStream → Bool
  | .ident s _ :: _ => acceptsAsIdent s
  | _ => false

/-- Whether the stream starts with any identifier or keyword. -/
def startsAnyIdent : TokenStream → Bool
  | .ident _ _ :: _ => true
  | _ => false

/-- Whether the stream starts with a lifetime. -/
def startsLifetime : TokenStream → Bool
  | .punct '\'' .joint _ :: .ident _ _ :: _ => true
  | _ => false

/-- Whether the stream starts with a group in the delimiter `d`. -/
def startsGroup (ts : TokenStream) (d : Delimiter) : Bool :=
  match ts with
  | .group d' _ _ _ :: _ => d' == d
  | _ => false

/-- The literal at the start of the stream and the tokens after it: a literal token, `true` or
`false`, or a minus sign before a number. -/
def leadingLit : TokenStream → Option (Lit × TokenStream)
  | .literal s p :: rest => some (Lit.ofToken s p, rest)
  | .ident s p :: rest =>
    if s == "true" || s == "false" then some ({ kind := .bool, text := s, pos := p }, rest)
    else none
  | .punct '-' _ p :: .literal s _ :: rest =>
    match s.toList with
    | c :: _ => if c.isDigit then some (Lit.ofToken ("-" ++ s) p, rest) else none
    | [] => none
  | _ => none

/-- Whether the stream starts with a literal. -/
def startsLit (ts : TokenStream) : Bool := (leadingLit ts).isSome

/-- Whether the stream starts with a literal of the kind `k`. -/
def startsLitOf (ts : TokenStream) (k : LitKind) : Bool :=
  match leadingLit ts with
  | some (l, _) => l.kind == k
  | none => false

end TokenStream

/-! ### Printed tokens -/

/-- The tokens of an operator: its characters, each joint to the next. -/
def opTokens (op : String) : TokenStream :=
  let cs := op.toList
  cs.zipIdx.map fun (c, i) =>
    TokenTree.mkPunct c (if i + 1 < cs.length then .joint else .alone)

/-- The tokens of a word. -/
def wordTokens (w : String) : TokenStream := [TokenTree.mkIdent w]

/-- The tokens of a lifetime written `'name`. -/
def lifetimeTokens (lt : String) : TokenStream :=
  [TokenTree.mkPunct '\'' .joint, TokenTree.mkIdent (lt.drop 1).toString]

/-- A group around printed tokens. -/
def groupTokens (d : Delimiter) (inner : TokenStream) : TokenStream := [TokenTree.mkGroup d inner]

/-- The tokens of a list joined by a separator. -/
def joinTokens (sep : TokenStream) : List TokenStream → TokenStream
  | [] => []
  | [x] => x
  | x :: rest => x ++ sep ++ joinTokens sep rest

/-- The message for a missing group in the delimiter. -/
def Delimiter.expectedMessage : Delimiter → String
  | .paren => "expected parentheses"
  | .brace => "expected curly braces"
  | .bracket => "expected square brackets"
  | .none => "expected invisible group"

/-! ### Reading -/

namespace Parse

/-- The tokens not yet read at this level. -/
def remaining : Parse TokenStream := return (← get).rest

/-- Tests the tokens not yet read. -/
def peekWith (f : TokenStream → Bool) : Parse Bool := return f (← get).rest

/-- Tests the tokens after the next token tree. -/
def peek2With (f : TokenStream → Bool) : Parse Bool :=
  return f (TokenStream.skipTree (← get).rest)

/-- Tests the tokens after the next two token trees. -/
def peek3With (f : TokenStream → Bool) : Parse Bool :=
  return f (TokenStream.skipTree (TokenStream.skipTree (← get).rest))

/-- Whether the next tokens spell the operator. -/
def peekOp (op : String) : Parse Bool := peekWith (·.startsOp op)

/-- Whether the tokens after the next tree spell the operator. -/
def peek2Op (op : String) : Parse Bool := peek2With (·.startsOp op)

/-- Whether the tokens after the next two trees spell the operator. -/
def peek3Op (op : String) : Parse Bool := peek3With (·.startsOp op)

/-- Whether the next token is the word. -/
def peekWord (w : String) : Parse Bool := peekWith (·.startsWord w)

/-- Whether the token after the next tree is the word. -/
def peek2Word (w : String) : Parse Bool := peek2With (·.startsWord w)

/-- Whether the token after the next two trees is the word. -/
def peek3Word (w : String) : Parse Bool := peek3With (·.startsWord w)

/-- Whether the next token is an identifier that is not a keyword. -/
def peekIdent : Parse Bool := peekWith TokenStream.startsIdent

/-- Whether the next token is a lifetime. -/
def peekLifetime : Parse Bool := peekWith TokenStream.startsLifetime

/-- Whether the next token is a literal. -/
def peekLit : Parse Bool := peekWith TokenStream.startsLit

/-- Whether the next token is a group in the delimiter. -/
def peekGroup (d : Delimiter) : Parse Bool := peekWith (·.startsGroup d)

/-- Whether the token after the next tree is a group in the delimiter. -/
def peek2Group (d : Delimiter) : Parse Bool := peek2With (·.startsGroup d)

/-- Whether this level is read to its end. -/
def atEnd : Parse Bool := return (← get).rest.isEmpty

/-- Where the next token starts, or the scope at the end. -/
def here : Parse Pos := do
  let c ← get
  return match c.rest with
    | [] => c.scope
    | t :: _ => t.pos

/-- Fails with a message located at a position. -/
def failAt (pos : Pos) (msg : String) : Parse α := throw ⟨pos, msg⟩

/-- Fails at the cursor; at the end of the level the message says so and points at the scope. -/
def failHere (msg : String) : Parse α := do
  let c ← get
  match c.rest with
  | [] => throw ⟨c.scope, "unexpected end of input, " ++ msg⟩
  | t :: _ => throw ⟨t.pos, msg⟩

/-- Fails at the start of `ts`, a stream read ahead from this level; at its end the message
says so and points at the scope. -/
def failHereIn (ts : TokenStream) (msg : String) : Parse α := do
  let c ← get
  match ts with
  | [] => throw ⟨c.scope, "unexpected end of input, " ++ msg⟩
  | t :: _ => throw ⟨t.pos, msg⟩

/-- Fails at the start of `ts`, naming everything a lookahead compared against, in the order
compared. -/
def expectedOneOfIn (ts : TokenStream) (comparisons : List String) : Parse α := do
  match comparisons with
  | [] =>
    let c ← get
    match ts with
    | [] => failAt c.scope "unexpected end of input"
    | t :: _ => failAt t.pos "unexpected token"
  | [a] => failHereIn ts ("expected " ++ a)
  | [a, b] => failHereIn ts ("expected " ++ a ++ " or " ++ b)
  | _ => failHereIn ts ("expected one of: " ++ ", ".intercalate comparisons)

/-- Fails at the cursor, naming everything a lookahead compared against, in the order
compared. -/
def expectedOneOf (comparisons : List String) : Parse α := do
  expectedOneOfIn (← get).rest comparisons

/-- Drops the next `n` token trees. -/
def skip (n : Nat) : Parse Unit := modify fun c => { c with rest := c.rest.drop n }

/-- Reads an operator and answers its printed tokens. -/
def op (s : String) : Parse TokenStream := do
  if ← peekOp s then
    skip s.length
    return opTokens s
  else failAt (← here) ("expected `" ++ s ++ "`")

/-- Reads an operator if it comes next. -/
def opt (s : String) : Parse (Option TokenStream) := do
  if ← peekOp s then return some (← op s) else return none

/-- Reads the keyword `w`. -/
def word (w : String) : Parse TokenStream := do
  if ← peekWord w then
    let p ← here
    skip 1
    return [.ident w p]
  else failHere ("expected `" ++ w ++ "`")

/-- Reads the keyword `w` if it comes next. -/
def optWord (w : String) : Parse (Option TokenStream) := do
  if ← peekWord w then return some (← word w) else return none

/-- Reads an identifier that is not a keyword. -/
def ident : Parse (String × Pos) := do
  match (← get).rest with
  | .ident s p :: _ =>
    if acceptsAsIdent s then
      skip 1
      return (s, p)
    else failHere ("expected identifier, found keyword `" ++ s ++ "`")
  | _ => failHere "expected identifier"

/-- Reads any identifier or keyword. -/
def anyIdent : Parse (String × Pos) := do
  match (← get).rest with
  | .ident s p :: _ =>
    skip 1
    return (s, p)
  | _ => failHere "expected ident"

/-- Reads a lifetime and answers its text, apostrophe included. -/
def lifetime : Parse (String × Pos) := do
  match (← get).rest with
  | .punct '\'' .joint p :: .ident s _ :: _ =>
    skip 2
    return ("'" ++ s, p)
  | _ => failHere "expected lifetime"

/-- Reads a literal. -/
def lit : Parse Lit := do
  let c ← get
  match TokenStream.leadingLit c.rest with
  | some (l, rest) =>
    set { c with rest := rest }
    return l
  | none => failHere "expected literal"

/-- Reads the contents of a group in the delimiter `d` with `p`. A token that `p` leaves
unread becomes the stray token, unless one is already remembered. -/
def inGroup (d : Delimiter) (p : Parse α) : Parse α := do
  let c ← get
  match c.rest with
  | .group d' inner _ close :: rest =>
    if d' == d then
      match p.run { rest := inner, scope := close, stray := c.stray } with
      | .ok (a, c') =>
        let stray := match c'.stray with
          | some s => some s
          | none => c'.rest.head?.map fun t => (t.pos, d)
        set { c with rest := rest, stray := stray }
        return a
      | .error e => throw e
    else failHere d.expectedMessage
  | _ => failHere d.expectedMessage

/-- Reads a group in any delimiter as it is: its delimiter and its tokens. -/
def anyGroup : Parse (Delimiter × TokenStream) := do
  match (← get).rest with
  | .group d inner _ _ :: _ =>
    if d == .none then failHere "expected delimiter"
    else
      skip 1
      return (d, inner)
  | _ => failHere "expected delimiter"

/-- The token trees read since the cursor stood before `begin`, as they were written. -/
def readSince (begin : TokenStream) : Parse TokenStream := do
  return begin.take (begin.length - (← get).rest.length)

/-- Runs `p`; if it fails, the cursor is left as it was and the answer is `none`. -/
def attempt (p : Parse α) : Parse (Option α) := do
  let c ← get
  match p.run c with
  | .ok (a, c') =>
    set c'
    return some a
  | .error _ => return none

/-- Runs `p` on a copy of the cursor: answers its result and leaves the cursor unmoved. -/
def lookahead (p : Parse α) : Parse (Except SyntaxError α) := do
  let c ← get
  return (p.run' c)

/-- Whether `p` succeeds from here; the cursor is not moved. -/
def succeeds (p : Parse α) : Parse Bool := do
  return match ← lookahead p with
    | .ok _ => true
    | .error _ => false

/-- Repeats `step` until it answers `none`, collecting its answers. Every answered round reads
at least one token tree, so the rounds are bounded by the trees left at this level. -/
def many (step : Parse (Option α)) : Parse (List α) := do
  go ((← get).rest.length + 1) []
where
  /-- The rounds, with a bound on their number. -/
  go : Nat → List α → Parse (List α)
  | 0, acc => return acc.reverse
  | n + 1, acc => do
    match ← step with
    | none => return acc.reverse
    | some a => go n (a :: acc)

/-- Repeats `step` while it answers a value and asks to go on (`true`), collecting the values;
a round that answers `none` ends the repetition without a value. -/
def chain (step : Parse (Option (α × Bool))) : Parse (List α) := do
  go ((← get).rest.length + 1) []
where
  /-- The rounds, with a bound on their number. -/
  go : Nat → List α → Parse (List α)
  | 0, acc => return acc.reverse
  | n + 1, acc => do
    match ← step with
    | none => return acc.reverse
    | some (a, true) => go n (a :: acc)
    | some (a, false) => return (a :: acc).reverse

/-- One round of a comma-separated list: nothing at the end of the level, else an element read by
`item` and whether a comma after it asks for another. -/
def commaItem (item : Parse α) : Parse (Option (α × Bool)) := do
  if ← atEnd then return none
  let x ← item
  if ← atEnd then return some (x, false)
  discard <| op ","
  return some (x, true)

/-- The elements of a comma-separated list up to the end of the level, each read by `item`; a
comma may follow the last. -/
def commaList (item : Parse α) : Parse (List α) := chain (commaItem item)

/-- Runs a parse of a whole token stream at the top level, whose scope is `scope`: fails on a
stray token, and on a token left over at the top ("unexpected token"). -/
def runAll (p : Parse α) (ts : TokenStream) (scope : Pos := {}) : Except SyntaxError α :=
  match p.run { rest := ts, scope := scope } with
  | .error e => .error e
  | .ok (a, c) =>
    match c.stray with
    | some (pos, d) =>
      .error ⟨pos, match d with
        | .paren => "unexpected token, expected `)`"
        | .brace => "unexpected token, expected `\x7d`"
        | .bracket => "unexpected token, expected `]`"
        | .none => "unexpected token"⟩
    | none =>
      match c.rest with
      | t :: _ => .error ⟨t.pos, "unexpected token"⟩
      | [] => .ok a

end Parse

end Augment.Rust
