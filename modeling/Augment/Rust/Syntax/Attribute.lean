import Augment.Rust.Syntax.Grammar

/-!
# Attributes and blocks

An attribute is `#[meta]` (outer) or `#![meta]` (inner). Its contents start with a path of
plain identifiers (or the single word `unsafe`); a delimited group after the path is kept as
written, and `= value` takes a literal when the literal is all that is left, else an
expression. Contents read from inside a delimited group (`meta`) start with a path whose
segments may also be keywords, as in `#[marker(true = 1)]`.

A block is a brace group: its inner attributes, then its statements.
-/

namespace Augment.Rust

open Parse

/-! ### Paths of plain identifiers -/

/-- Whether the next token can be a segment of a plain path. -/
def peekModSegment : Parse Bool := do
  return (← peekIdent) || (← peekWord "super") || (← peekWord "self") ||
    (← peekWord "Self") || (← peekWord "crate")

/-- The segments of a plain path; answers whether the path ended in `::`. -/
def modSegments : Nat → List Segment → Bool → Parse (List Segment × Bool)
  | 0, acc, trailing => return (acc.reverse, trailing)
  | n + 1, acc, trailing => do
    if !(← peekModSegment) then return (acc.reverse, trailing)
    let (s, p) ← anyIdent
    let acc := { ident := s, pos := p } :: acc
    if !(← peekOp "::") then return (acc.reverse, false)
    discard <| op "::"
    modSegments n acc true

/-- A path of identifiers joined by `::`, with no generic arguments. -/
def modPath : Parse Path := do
  let lead ← opt "::"
  let (segs, trailing) ← modSegments ((← remaining).length + 1) [] false
  if segs.isEmpty then
    discard ident
    failHere "expected identifier"
  else if trailing then failHere "expected path segment after `::`"
  else return { leadingColon := lead.isSome, segments := segs }

/-- The segments after the first of a path that may hold keywords. -/
def metaSegments : Nat → List Segment → Parse (List Segment)
  | 0, acc => return acc.reverse
  | n + 1, acc => do
    if !(← peekOp "::") then return acc.reverse
    discard <| op "::"
    let (s, p) ← anyIdent
    metaSegments n ({ ident := s, pos := p } :: acc)

/-- The path of attribute contents read from inside a delimited group: identifiers and keywords
alike, joined by `::`. -/
def metaPath : Parse Path := do
  let lead ← opt "::"
  let ts ← remaining
  if ts.startsAnyIdent then
    let (s, p) ← anyIdent
    let segs ← metaSegments ts.length [{ ident := s, pos := p }]
    return { leadingColon := lead.isSome, segments := segs }
  else if ts.isEmpty then failHere "expected nested attribute"
  else if ts.startsLit then failHere "unexpected literal in nested attribute, expected ident"
  else failHere "unexpected token in nested attribute, expected ident"

/-! ### Attribute contents -/

/-- The path that starts an attribute: `unsafe`, or a plain path. -/
def outermostMetaPath : Parse Path := do
  if ← peekWord "unsafe" then
    let p ← here
    discard <| word "unsafe"
    return Path.ofIdent "unsafe" p
  else modPath

namespace Grammar

/-- The contents of an attribute after its path. -/
def metaAfterPath (g : Grammar) (path : Path) : Parse Meta := do
  if (← peekGroup .paren) || (← peekGroup .bracket) || (← peekGroup .brace) then
    match (← remaining) with
    | .group d inner _ close :: _ =>
      skip 1
      return .list path d inner close
    | _ => failHere "expected delimiter"
  else if ← peekOp "=" then
    discard <| op "="
    let c ← get
    match TokenStream.leadingLit c.rest with
    | some (l, []) =>
      set { c with rest := [] }
      return .nameValue path { kind := .lit l, tokens := l.tokens }
    | _ =>
      if (← peekOp "#") && (← peek2Group .bracket) then
        failHere "unexpected attribute inside of attribute"
      else
        let v ← g.expr
        return .nameValue path v
  else return .bare path

/-- The contents of an attribute. -/
def metaItem (g : Grammar) : Parse Meta := do
  let path ← outermostMetaPath
  g.metaAfterPath path

/-- Attribute contents read from inside a delimited group. -/
def nestedMetaItem (g : Grammar) : Parse Meta := do
  let path ← metaPath
  g.metaAfterPath path

/-- One outer attribute. -/
def outerAttr (g : Grammar) : Parse Attribute := do
  discard <| op "#"
  let m ← inGroup .bracket g.metaItem
  return { style := .outer, content := m }

/-- One inner attribute. -/
def innerAttr (g : Grammar) : Parse Attribute := do
  discard <| op "#"
  discard <| op "!"
  let m ← inGroup .bracket g.metaItem
  return { style := .inner, content := m }

/-- The outer attributes at the cursor. -/
def outerAttrs (g : Grammar) : Parse (List Attribute) :=
  many do
    if ← peekOp "#" then return some (← g.outerAttr) else return none

/-- The inner attributes at the cursor. -/
def innerAttrs (g : Grammar) : Parse (List Attribute) :=
  many do
    if (← peekOp "#") && (← peek2Op "!") then return some (← g.innerAttr) else return none

/-! ### Blocks -/

/-- A block: braces around inner attributes and statements; answers its printed tokens. -/
def block (g : Grammar) : Parse TokenStream := do
  let inner ← inGroup .brace do
    let attrs ← g.innerAttrs
    let body ← g.stmts
    return attrsTokens attrs ++ body
  return groupTokens .brace inner

/-- A block with no inner attributes read before its statements. -/
def plainBlock (g : Grammar) : Parse TokenStream := do
  let inner ← inGroup .brace g.stmts
  return groupTokens .brace inner

/-- A loop label `'a:`, if one comes next; answers its printed tokens. -/
def label : Parse (Option TokenStream) := do
  if ← peekLifetime then
    let (lt, _) ← lifetime
    let colon ← op ":"
    return some (lifetimeTokens lt ++ colon)
  else return none

/-- A block expression: outer attributes, an optional label, and a block. -/
def blockExpr (g : Grammar) : Parse Expr := do
  let attrs ← g.outerAttrs
  let lbl ← label
  let b ← g.block
  return { kind := .block, tokens := attrsTokens attrs ++ lbl.getD [] ++ b }

end Grammar

end Augment.Rust
