import Augment.Rust.Syntax.Generics

/-!
# Patterns

The patterns of `let`, function parameters, closures and match arms: identifiers (with `ref`,
`mut` and `@`), paths, tuple-struct and struct patterns, literals and ranges, references,
tuples, slices, `..`, `_`, `box` and `const` blocks, and alternatives joined by `|`.

A range pattern ends where a pattern list continues or stops (`|`, `=`, `:`, `,`, `;`, `if`),
so `a..` is a half-open range. The obsolete `...` reads as `..=`.
-/

namespace Augment.Rust

open Parse

namespace Grammar

/-- An expression path: a qualified or plain path in expression style. -/
def exprPath (g : Grammar) : Parse Expr := do
  let attrs ← g.outerAttrs
  let q ← g.qpath true
  return { kind := .path, tokens := attrsTokens attrs ++ q.tokens }

/-- A `const { .. }` block. -/
def constBlock (g : Grammar) : Parse Expr := do
  let attrs ← g.outerAttrs
  let c ← word "const"
  let b ← g.block
  return { kind := .constBlock, tokens := attrsTokens attrs ++ c ++ b }

/-- One end of a range pattern, or `none` where the pattern ends. -/
def rangeBound (g : Grammar) : Parse (Option Expr) := do
  if (← atEnd) || (← peekOp "|") || (← peekOp "=") || ((← peekOp ":") && !(← peekOp "::")) ||
      (← peekOp ",") || (← peekOp ";") || (← peekWord "if") then
    return none
  if ← peekLit then
    let l ← lit
    return some { kind := .lit l, tokens := l.tokens }
  if (← peekIdent) || (← peekOp "::") || (← peekOp "<") || (← peekWord "self") ||
      (← peekWord "Self") || (← peekWord "super") || (← peekWord "crate") then
    return some (← g.exprPath)
  if ← peekWord "const" then return some (← g.constBlock)
  expectedOneOf ["literal", "identifier", "`::`", "`<`", "`self`", "`Self`", "`super`",
    "`crate`", "`const`"]

/-- Range limits in a pattern: `..=`, `...` (read as `..=`), or `..`; answers whether the
range is closed and the printed tokens. -/
def rangeLimits : Parse (Bool × TokenStream) := do
  if ← peekOp "..=" then return (true, ← op "..=")
  else if ← peekOp "..." then
    discard <| op "..."
    return (true, opTokens "..=")
  else if ← peekOp ".." then return (false, ← op "..")
  else expectedOneOf ["`..`"]

/-- The rest of a range pattern after its start. -/
def rangeRest (g : Grammar) (start : TokenStream) : Parse Pat := do
  let at_ ← here
  let (closed, limits) ← rangeLimits
  let stop ← g.rangeBound
  if closed && stop.isNone then failHere "expected range upper bound"
  return { shape := .range true stop.isSome at_,
           tokens := start ++ limits ++ ((stop.map (·.tokens)).getD []) }

/-! ### Pieces -/

/-- A pattern that may have alternatives joined by `|`. -/
def patMulti (g : Grammar) (leadingVert : Bool) : Parse Pat := do
  let vert ← if leadingVert then opt "|" else pure none
  let first ← g.pat
  let isAlt := do return (← peekOp "|") && !(← peekOp "||") && !(← peekOp "|=")
  if vert.isSome || (← isAlt) then
    let more ← many do
      if !(← isAlt) then return none
      let bar ← op "|"
      let p ← g.pat
      return some (bar ++ p.tokens)
    return { shape := .other, tokens := vert.getD [] ++ first.tokens ++ more.flatten }
  return first

/-- Patterns separated by commas up to the end of a group. -/
def patList (g : Grammar) : Parse (List Pat × TokenStream) := do
  let parts ← chain do
    if ← atEnd then return none
    let p ← g.patMulti false
    if ← atEnd then return some ((p, []), false)
    let c ← op ","
    return some ((p, c), true)
  return (parts.map (·.1), (parts.map fun (p, c) => p.tokens ++ c).flatten)

/-- A struct field name or tuple index. -/
def member : Parse (Bool × TokenStream) := do
  if ← peekIdent then
    let (s, p) ← ident
    return (true, [.ident s p])
  if ← peekWith (·.startsLitOf .int) then
    let l ← lit
    match tupleIndex l.text with
    | .ok v => return (false, [.literal (toString v) l.pos])
    | .error message => failAt l.pos message
  failHere "expected identifier or integer"

/-- One field of a struct pattern. -/
def fieldPat (g : Grammar) : Parse TokenStream := do
  let begin ← remaining
  let boxed ← optWord "box"
  let byRef ← optWord "ref"
  let mutability ← optWord "mut"
  let prefixed := boxed.isSome || byRef.isSome || mutability.isSome
  let (named, m) ← if prefixed then
      let (s, p) ← ident
      pure (true, [TokenTree.ident s p])
    else member
  if (!prefixed && (← peekOp ":")) || !named then
    let colon ← op ":"
    let p ← g.patMulti true
    return m ++ colon ++ p.tokens
  if boxed.isSome then return ← readSince begin
  return byRef.getD [] ++ mutability.getD [] ++ m

/-- The braces of a struct pattern. -/
def structPatBody (g : Grammar) : Parse TokenStream := do
  let inner ← inGroup .brace do
    let parts ← chain do
      if ← atEnd then return none
      let attrs ← g.outerAttrs
      if ← peekOp ".." then
        let dots ← op ".."
        return some (attrsTokens attrs ++ dots, false)
      let f ← g.fieldPat
      if ← atEnd then return some (attrsTokens attrs ++ f, false)
      let c ← op ","
      return some (attrsTokens attrs ++ f ++ c, true)
    return parts.flatten
  return groupTokens .brace inner

/-- A pattern that starts with a path: a macro, a struct or tuple-struct pattern, a range, or
the path itself. -/
def pathPat (g : Grammar) : Parse Pat := do
  let q ← g.qpath true
  if !q.qself && (← peekOp "!") && !(← peekOp "!=") && q.path.isModStyle then
    let bang ← op "!"
    let (d, ts) ← anyGroup
    return { shape := .other, tokens := q.tokens ++ bang ++ groupTokens d ts }
  if ← peekGroup .brace then
    return { shape := .other, tokens := q.tokens ++ (← g.structPatBody) }
  if ← peekGroup .paren then
    let (_, inner) ← inGroup .paren g.patList
    return { shape := .other, tokens := q.tokens ++ groupTokens .paren inner }
  if ← peekOp ".." then return (← g.rangeRest q.tokens)
  return { shape := .other, tokens := q.tokens }

/-- An identifier pattern: `ref`, `mut`, the name, and `@ pattern`. -/
def identPat (g : Grammar) : Parse Pat := do
  let byRef ← optWord "ref"
  let mutability ← optWord "mut"
  let (s, p) ← if ← peekWord "self" then anyIdent else ident
  let sub ← if ← peekOp "@" then
      let at_ ← op "@"
      pure (at_ ++ (← g.pat).tokens)
    else pure []
  return { shape := .other,
           tokens := byRef.getD [] ++ mutability.getD [] ++ [TokenTree.ident s p] ++ sub }

/-- A pattern in parentheses, or a tuple pattern. -/
def parenPat (g : Grammar) : Parse Pat := do
  let (_, inner) ← inGroup .paren g.patList
  return { shape := .other, tokens := groupTokens .paren inner }

/-- A slice pattern; a range without one of its ends inside it must be parenthesized. -/
def slicePat (g : Grammar) : Parse Pat := do
  let inner ← inGroup .bracket do
    let parts ← chain do
      if ← atEnd then return none
      let p ← g.patMulti false
      match p.shape with
      | .range s e at_ =>
        if !s || !e then
          failAt at_ "range pattern is not allowed unparenthesized inside slice pattern"
      | _ => pure ()
      if ← atEnd then return some (p.tokens, false)
      let c ← op ","
      return some (p.tokens ++ c, true)
    return parts.flatten
  return { shape := .other, tokens := groupTokens .bracket inner }

/-- A pattern without alternatives at the top (`Pat::parse_single`). -/
def patPlain (g : Grammar) : Parse Pat := do
  let identFirst ← peekIdent
  let pathStart := (identFirst && ((← peek2Op "::") || (← peek2Op "!") ||
      (← peek2Group .brace) || (← peek2Group .paren) || (← peek2Op ".."))) ||
    ((← peekWord "self") && (← peek2Op "::")) || (← peekOp "::") || (← peekOp "<") ||
    (← peekWord "Self") || (← peekWord "super") || (← peekWord "crate")
  if pathStart then g.pathPat
  else if ← peekWord "_" then
    return { shape := .other, tokens := ← word "_" }
  else if ← peekWord "box" then
    let begin ← remaining
    discard <| word "box"
    discard g.pat
    return { shape := .other, tokens := ← readSince begin }
  else if (← peekOp "-") || (← peekLit) || (← peekWord "const") then
    let start ← g.rangeBound
    let startTokens := (start.map (·.tokens)).getD []
    if ← peekOp ".." then g.rangeRest startTokens
    else return { shape := .other, tokens := startTokens }
  else if (← peekWord "ref") || (← peekWord "mut") || (← peekWord "self") || (← peekIdent) then
    g.identPat
  else if ← peekOp "&" then
    let amp ← op "&"
    let m ← optWord "mut"
    let p ← g.pat
    return { shape := .other, tokens := amp ++ m.getD [] ++ p.tokens }
  else if ← peekGroup .paren then g.parenPat
  else if ← peekGroup .bracket then g.slicePat
  else if (← peekOp "..") && !(← peekOp "...") then
    let at_ ← here
    let (_, limits) ← rangeLimits
    let stop ← g.rangeBound
    match stop with
    | some e => return { shape := .range false true at_, tokens := limits ++ e.tokens }
    | none => return { shape := .rest, tokens := limits }
  else
    expectedOneOf ["identifier", "`::`", "`<`", "`_`", "literal", "`const`", "`ref`", "`mut`",
      "`&`", "parentheses", "square brackets", "`..`", "`const`"]

end Grammar

end Augment.Rust
