import Augment.Rust.Syntax.Attribute

/-!
# Paths

A path is a chain of segments joined by `::`. In a type, a segment may take generic arguments
in angle brackets directly (`Vec<u8>`); in an expression or pattern only after `::`
(`Vec::<u8>`), since a bare `<` there is a comparison. The segments `self`, `super`, `crate`
and `try` never take arguments.

A qualified path starts with `<T>` or `<T as Trait>` and continues with `::` segments.
-/

namespace Augment.Rust

open Parse

/-- A path with an optional `<T as Trait>` qualification and its printed tokens. -/
structure QPath where
  /-- Whether the path is qualified. -/
  qself : Bool
  /-- The path; for a qualified path, the segments after the qualification. -/
  path : Path
  /-- The printed tokens. -/
  tokens : TokenStream
  deriving Repr, Inhabited

namespace Grammar

/-- One path segment. In expression style, arguments need a `::` before `<`. -/
def segment (g : Grammar) (exprStyle : Bool) : Parse Segment := do
  if (← peekWord "super") || (← peekWord "self") || (← peekWord "crate") ||
      (← peekWord "try") then
    let (s, p) ← anyIdent
    return { ident := s, pos := p }
  let (s, p) ← if ← peekWord "Self" then anyIdent else ident
  let angle := !exprStyle && (← peekOp "<") && !(← peekOp "<=") && !(← peekOp "<<=")
  if angle || ((← peekOp "::") && (← peek3Op "<")) then
    let args ← g.angleArgs
    return { ident := s, pos := p, args := .angle, argTokens := args }
  else return { ident := s, pos := p }

/-- Further `::` segments of a path, stopping before `::(`. -/
def segmentsAfter (g : Grammar) (exprStyle : Bool) : Nat → List Segment → Parse (List Segment)
  | 0, acc => return acc.reverse
  | n + 1, acc => do
    if (← peekOp "::") && !(← peek3With (·.startsGroup .paren)) then
      discard <| op "::"
      let s ← g.segment exprStyle
      g.segmentsAfter exprStyle n (s :: acc)
    else return acc.reverse

/-- A path in type style (`exprStyle = false`) or expression style. -/
def pathWith (g : Grammar) (exprStyle : Bool) : Parse Path := do
  let lead ← opt "::"
  let first ← g.segment exprStyle
  let rest ← g.segmentsAfter exprStyle ((← remaining).length + 1) []
  return { leadingColon := lead.isSome, segments := first :: rest }

/-- A path in type style. -/
def path (g : Grammar) : Parse Path := g.pathWith false

/-- Segments joined by `::`, at least one. -/
def segmentChain (g : Grammar) (exprStyle : Bool) : Nat → List Segment → Parse (List Segment)
  | 0, acc => return acc.reverse
  | n + 1, acc => do
    let s ← g.segment exprStyle
    if ← peekOp "::" then
      discard <| op "::"
      g.segmentChain exprStyle n (s :: acc)
    else return (s :: acc).reverse

/-- A path that may be qualified: `<T>::x`, `<T as Trait>::x`, or a plain path. -/
def qpath (g : Grammar) (exprStyle : Bool) : Parse QPath := do
  if ← peekOp "<" then
    let lt ← op "<"
    let this ← g.type
    let asPart ← if ← peekWord "as" then
        let a ← word "as"
        let p ← g.path
        pure (a ++ p.tokens)
      else pure []
    let gt ← op ">"
    let colons ← op "::"
    let rest ← g.segmentChain exprStyle ((← remaining).length + 1) []
    let restPath : Path := { segments := rest }
    return { qself := true, path := restPath,
             tokens := lt ++ this.tokens ++ asPart ++ gt ++ colons ++ restPath.tokens }
  else
    let p ← g.pathWith exprStyle
    return { qself := false, path := p, tokens := p.tokens }

end Grammar

end Augment.Rust
