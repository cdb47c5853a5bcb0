import Augment.Rust.Syntax.Type

/-!
# Visibility, generic parameters and `where` clauses

A visibility is nothing, `pub`, or `pub(crate)`, `pub(self)`, `pub(super)`, `pub(in path)`.
Parentheses after `pub` that hold anything else belong to what follows (a tuple field's type).

Generic parameters are lifetimes (`'a: 'b`), types (`T: Bound = Default`) and constants
(`const N: usize = 4`), in any order. A `where` clause lists predicates up to the brace,
semicolon or `=` that ends it.
-/

namespace Augment.Rust

open Parse

/-! ### Visibility -/

/-- A visibility. -/
def visibility : Parse Vis := do
  if !(← peekWord "pub") then return Vis.inherited
  let pubTok ← word "pub"
  match ← remaining with
  | .group .paren inner _ _ :: _ =>
    match inner with
    | .ident w p :: rest =>
      if w == "crate" || w == "self" || w == "super" then
        if rest.isEmpty then
          skip 1
          return { kind := .restricted, tokens := pubTok ++ groupTokens .paren [.ident w p] }
        else return { kind := .pub, tokens := pubTok }
      else if w == "in" then
        let inner ← inGroup .paren do
          let i ← word "in"
          let path ← modPath
          return i ++ path.tokens
        return { kind := .restricted, tokens := pubTok ++ groupTokens .paren inner }
      else return { kind := .pub, tokens := pubTok }
    | _ => return { kind := .pub, tokens := pubTok }
  | _ => return { kind := .pub, tokens := pubTok }

namespace Grammar

/-! ### Generic parameters -/

/-- The rest of a lifetime parameter after its attributes. -/
def lifetimeParam : Parse TokenStream := do
  let (l, _) ← lifetime
  match ← opt ":" with
  | none => return lifetimeTokens l
  | some colon =>
    let bounds ← chain do
      if (← peekOp ",") || (← peekOp ">") then return none
      let (b, _) ← lifetime
      if !(← peekOp "+") then return some (lifetimeTokens b, false)
      let plus ← op "+"
      return some (lifetimeTokens b ++ plus, true)
    -- a colon without bounds is not printed
    return lifetimeTokens l ++ (if bounds.isEmpty then [] else colon ++ bounds.flatten)

/-- Bounds after a colon, up to one of the stopping tokens. -/
def boundsUntil (g : Grammar) (stop : Parse Bool) : Parse TokenStream := do
  let parts ← chain do
    if ← stop then return none
    let (_, b) ← g.bound false true
    if !(← peekOp "+") then return some (b, false)
    let plus ← op "+"
    return some (b ++ plus, true)
  return parts.flatten

/-- The rest of a type parameter after its attributes. -/
def typeParam (g : Grammar) : Parse TokenStream := do
  let (s, p) ← ident
  let colon ← opt ":"
  let bounds ← match colon with
    | some _ => g.boundsUntil (do return (← peekOp ",") || (← peekOp ">") || (← peekOp "="))
    | none => pure []
  let dflt ← match ← opt "=" with
    | some eq => pure (eq ++ (← g.type).tokens)
    | none => pure []
  -- a colon without bounds is not printed
  return [TokenTree.ident s p] ++ (if bounds.isEmpty then [] else colon.getD []) ++ bounds ++ dflt

/-- The rest of a constant parameter after its attributes. -/
def constParam (g : Grammar) : Parse TokenStream := do
  let c ← word "const"
  let (s, p) ← ident
  let colon ← op ":"
  let t ← g.type
  let dflt ← if ← peekOp "=" then
      let eq ← op "="
      pure (eq ++ (← g.constArgument).tokens)
    else pure []
  return c ++ [TokenTree.ident s p] ++ colon ++ t.tokens ++ dflt

/-- One generic parameter. -/
def genericParamPlain (g : Grammar) : Parse (Bool × TokenStream) := do
  let attrs ← g.outerAttrs
  let (isLifetime, body) ← if ← peekLifetime then pure (true, ← lifetimeParam)
    else if ← peekIdent then pure (false, ← g.typeParam)
    else if ← peekWord "const" then pure (false, ← g.constParam)
    else if ← peekWord "_" then
      let (s, p) ← anyIdent
      pure (false, [TokenTree.ident s p])
    else expectedOneOf ["lifetime", "identifier", "`const`"]
  return (isLifetime, attrsTokens attrs ++ body)

/-- Generic parameters in angle brackets, if they come next. -/
def generics (g : Grammar) : Parse Generics := do
  if !(← peekOp "<") then return {}
  discard <| op "<"
  let params ← many do
    if ← peekOp ">" then return none
    let (isLifetime, ts) ← g.genericParam
    if ← peekOp ">" then return some { isLifetime := isLifetime, tokens := ts, comma := false }
    discard <| op ","
    return some { isLifetime := isLifetime, tokens := ts, comma := true }
  discard <| op ">"
  return { params := params, angled := true }

/-! ### `where` clauses -/

/-- Whether the cursor is where a `where` clause or a bound list ends. -/
def atClauseEnd (colonEnds : Bool) : Parse Bool := do
  return (← atEnd) || (← peekGroup .brace) || (← peekOp ",") || (← peekOp ";") ||
    ((← peekOp ":") && (colonEnds || !(← peekOp "::"))) || (← peekOp "=")

/-- Whether generic parameters, rather than a qualified path, follow: `<` then `>`, `#` or
`const`, or a lifetime or identifier and then `>`, `,`, `:` or `=`. Where both could start,
as in `<T>::Item`, the parameters win. -/
def genericsFollow : Parse Bool := do
  if !(← peekOp "<") then return false
  if (← peek2Op ">") || (← peek2Op "#") || (← peek2Word "const") then return true
  if (← peek2With TokenStream.startsLifetime) || (← peek2With TokenStream.startsIdent) then
    return (← peek3Op ">") || (← peek3Op ",") || ((← peek3Op ":") && !(← peek3Op "::")) ||
      (← peek3Op "=")
  return false

/-- Whether generic parameters follow the keyword at the cursor, as in `for<T> || x`; the cursor
is not moved. -/
def genericsAfterKeyword : Parse Bool := do
  match ← lookahead (do discard anyIdent; genericsFollow) with
  | .ok b => return b
  | .error _ => return false

/-- One predicate of a `where` clause. -/
def wherePredicate (g : Grammar) : Parse TokenStream := do
  if (← peekLifetime) && (← peek2Op ":") then
    let (l, _) ← lifetime
    let colon ← op ":"
    let bounds ← chain do
      if ← atClauseEnd true then return none
      let (b, _) ← lifetime
      if !(← peekOp "+") then return some (lifetimeTokens b, false)
      let plus ← op "+"
      return some (lifetimeTokens b ++ plus, true)
    return lifetimeTokens l ++ colon ++ bounds.flatten
  else
    let lts ← g.optBoundLifetimes
    let t ← g.type
    let colon ← op ":"
    let bounds ← chain do
      if ← atClauseEnd false then return none
      let (_, b) ← g.bound false true
      if !(← peekOp "+") then return some (b, false)
      let plus ← op "+"
      return some (b ++ plus, true)
    return lts ++ t.tokens ++ colon ++ bounds.flatten

/-- A `where` clause; generic parameters right after `where` are refused. -/
def whereClause (g : Grammar) : Parse WhereClause := do
  let w ← word "where"
  if ← genericsFollow then
    failHere "generic parameters on `where` clauses are reserved for future use"
  let preds ← chain do
    if ← atClauseEnd false then return none
    let p ← g.wherePredicate
    if !(← peekOp ",") then return some (p, false)
    let c ← op ","
    return some (p ++ c, true)
  return { predicates := preds.length, tokens := w ++ preds.flatten }

/-- A `where` clause, if one comes next. -/
def optWhere (g : Grammar) : Parse (Option WhereClause) := do
  if ← peekWord "where" then return some (← g.whereClause) else return none

end Grammar

end Augment.Rust
