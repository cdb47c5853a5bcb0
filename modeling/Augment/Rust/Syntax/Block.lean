import Augment.Rust.Syntax.Expr

/-!
# Statements

A block's statements are `let` bindings, items, macro invocations and expressions. An
expression statement needs a semicolon before the next statement unless it ends in a block
(`if`, `match`, a loop, a block) or is a macro invoked with braces; lone semicolons are empty
statements.

A statement that starts like an item (a keyword such as `fn`, `struct`, `use`, or a path with
`!` and a name) is read as an item.
-/

namespace Augment.Rust

open Parse

namespace Grammar

/-- Whether the statement at the cursor starts like an item. -/
def startsItem (isItemMacro : Bool) : Parse Bool := do
  if (← peekWord "pub") || ((← peekWord "crate") && !(← peek2Op "::")) ||
      (← peekWord "extern") || (← peekWord "use") then return true
  if (← peekWord "static") && ((← peek2Word "mut") || ((← peek2With TokenStream.startsIdent) &&
      !((← peek2Word "async") && ((← peek3Word "move") || (← peek3Op "|"))))) then return true
  if (← peekWord "const") && !((← peek2Group .brace) || (← peek2Word "static") ||
      ((← peek2Word "async") && !((← peek3Word "unsafe") || (← peek3Word "extern") ||
        (← peek3Word "fn"))) || (← peek2Word "move") || (← peek2Op "|")) then return true
  if (← peekWord "unsafe") && !(← peek2Group .brace) then return true
  if (← peekWord "async") && ((← peek2Word "unsafe") || (← peek2Word "extern") ||
      (← peek2Word "fn")) then return true
  if (← peekWord "fn") || (← peekWord "mod") || (← peekWord "type") || (← peekWord "struct") ||
      (← peekWord "enum") then return true
  if (← peekWord "union") && (← peek2With TokenStream.startsIdent) then return true
  if (← peekWord "auto") && (← peek2Word "trait") then return true
  if ← peekWord "trait" then return true
  if (← peekWord "default") && ((← peek2Word "impl") || (← peek2Word "unsafe")) then return true
  return (← peekWord "impl") || (← peekWord "macro") || isItemMacro

/-- A `let` statement after its attributes. -/
def localStmt (g : Grammar) : Parse TokenStream := do
  let l ← word "let"
  let p ← g.pat
  let ty ← if ← peekOp ":" then
      let colon ← op ":"
      pure (colon ++ (← g.type).tokens)
    else pure []
  let init ← match ← opt "=" with
    | some eq =>
      let e ← g.expr
      if !e.endsInBrace && (← peekWord "else") then
        let el ← word "else"
        let b ← g.plainBlock
        pure (eq ++ e.tokens ++ el ++ b)
      else pure (eq ++ e.tokens)
    | none => pure []
  let semi ← op ";"
  return l ++ p.tokens ++ ty ++ init ++ semi

/-- One statement; answers its printed tokens and whether a semicolon must follow before
another statement. -/
def stmt (g : Grammar) : Parse (TokenStream × Bool) := do
  let begin ← remaining
  let attrs ← g.outerAttrs
  let pre := attrsTokens attrs
  -- a path, `!`, then a brace group: a statement macro
  let probe ← lookahead do
    let path ← modPath
    let bang ← peekOp "!"
    let item := bang && ((← peek2With TokenStream.startsIdent) || (← peek2Word "try"))
    let braced := bang && (← peek2Group .brace) &&
      !(((← peek3Op ".") && !(← peek3Op "..")) || (← peek3Op "?"))
    return (path, item, braced)
  let (isItemMacro, macroStmt) := match probe with
    | .ok (path, item, braced) => (item, if !item && braced then some path else none)
    | .error _ => (false, none)
  match macroStmt with
  | some path =>
    discard modPath
    let bang ← op "!"
    let (d, ts) ← anyGroup
    let semi ← opt ";"
    return (pre ++ path.tokens ++ bang ++ groupTokens d ts ++ semi.getD [],
      semi.isNone && d != .brace)
  | none =>
  if (← peekWord "let") then
    return (pre ++ (← g.localStmt), false)
  if ← startsItem isItemMacro then
    let (_, ts) ← g.itemRest begin attrs
    return (ts, false)
  let e ← g.stmtExpr
  let semi ← opt ";"
  let tokens := pre ++ e.tokens ++ semi.getD []
  match e.kind with
  | .macroCall d =>
    if semi.isSome || d == .brace then return (tokens, semi.isNone && d != .brace)
    return (tokens, e.kind.requiresSemi)
  | _ => return (tokens, semi.isNone && e.kind.requiresSemi)

/-- The statements of a block, to the end of the group. -/
def stmtsPlain (g : Grammar) : Parse TokenStream := do
  let parts ← chain do
    let semis ← many do
      match ← opt ";" with
      | some s => return some s
      | none => return none
    if ← atEnd then return some (semis.flatten, false)
    let (ts, needsSemi) ← g.stmt
    if ← atEnd then return some (semis.flatten ++ ts, false)
    if needsSemi then failHere "unexpected token, expected `;`"
    return some (semis.flatten ++ ts, true)
  return parts.flatten

end Grammar

end Augment.Rust
