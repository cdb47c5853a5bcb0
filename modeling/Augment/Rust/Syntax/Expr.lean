import Augment.Rust.Syntax.Pattern

/-!
# Expressions

Expressions are read by precedence. A *unary* expression is a chain of prefix operators
(`&`, `&mut`, `*`, `!`, `-`) over an atom with its postfix chain (calls, method calls, field
access, indexing, `?`). Binary operators then extend it from the left: an operator that binds
at least as tightly as the current level is taken, and its right operand extends over every
operator that binds more tightly (assignment groups to the right).

Three rules restrict the extension: a range takes no further operator on its left, comparison
operators do not chain, and a cast may not be followed by a call, index, field or `?`.

Where an expression is followed by a block (the condition of `if`, `while`, `match`, `for`), a
path followed by a brace is not a struct literal.

A statement that starts with a block-like expression (`if`, `match`, a block, a loop) ends
with it, unless a method call or `?` follows.
-/

namespace Augment.Rust

open Parse

/-! ### Operators -/

/-- The binary operators, longest first, with their binding strengths. -/
def binaryOperators : List (String × Prec) :=
  [("+=", .assign), ("-=", .assign), ("*=", .assign), ("/=", .assign), ("%=", .assign),
   ("^=", .assign), ("&=", .assign), ("|=", .assign), ("<<=", .assign), (">>=", .assign),
   ("&&", .and), ("||", .or), ("<<", .shift), (">>", .shift), ("==", .compare),
   ("<=", .compare), ("!=", .compare), (">=", .compare), ("+", .sum), ("-", .sum),
   ("*", .product), ("/", .product), ("%", .product), ("^", .bitXor), ("&", .bitAnd),
   ("|", .bitOr), ("<", .compare), (">", .compare)]

/-- The binary operator at the start of a token stream. -/
def TokenStream.leadingBinOp (ts : TokenStream) : Option (String × Prec) :=
  binaryOperators.find? fun (s, _) => ts.startsOp s

/-- The binding strength of what comes next: a binary operator, `=`, `..` or `as`. -/
def peekPrecedence : Parse Prec := do
  match TokenStream.leadingBinOp (← remaining) with
  | some (_, p) => return p
  | none =>
    if (← peekOp "=") && !(← peekOp "=>") then return .assign
    else if ← peekOp ".." then return .range
    else if ← peekWord "as" then return .cast
    else return .jump

/-- Whether an expression can start at the cursor: any word but `as`, a group, a literal, a
prefix operator, a range, a path, a label or an attribute. -/
def canBeginExpr : Parse Bool := do
  return ((← peekWith TokenStream.startsAnyIdent) && !(← peekWord "as")) || (← peekGroup .paren) ||
    (← peekGroup .bracket) || (← peekGroup .brace) || (← peekLit) ||
    ((← peekOp "!") && !(← peekOp "!=")) ||
    ((← peekOp "-") && !(← peekOp "-=") && !(← peekOp "->")) ||
    ((← peekOp "*") && !(← peekOp "*=")) || ((← peekOp "|") && !(← peekOp "|=")) ||
    ((← peekOp "&") && !(← peekOp "&=")) || (← peekOp "..") ||
    ((← peekOp "<") && !(← peekOp "<=") && !(← peekOp "<<=")) || (← peekOp "::") ||
    (← peekLifetime) || (← peekOp "#")

/-- Range limits in an expression: `..=` or `..`; answers whether the range is closed. -/
def exprRangeLimits : Parse (Bool × TokenStream) := do
  if ← peekOp "..=" then return (true, ← op "..=")
  else if (← peekOp "..") && !(← peekOp "...") then return (false, ← op "..")
  else if ← peekOp ".." then expectedOneOf ["`..=`"]
  else expectedOneOf ["`..`"]

/-- Whether a half-open range ends here without an upper bound. -/
def rangeEndsHere (allowStruct : Bool) : Parse Bool := do
  return (← atEnd) || (← peekOp ",") || (← peekOp ";") ||
    ((← peekOp ".") && !(← peekOp "..")) || (← peekOp "?") || (← peekOp "=>") ||
    (!allowStruct && (← peekGroup .brace)) || (← peekOp "=") || (← peekOp "+") ||
    (← peekOp "/") || (← peekOp "%") || (← peekOp "^") || (← peekOp ">") || (← peekOp "<=") ||
    (← peekOp "!=") || (← peekOp "-=") || (← peekOp "*=") || (← peekOp "&=") ||
    (← peekOp "|=") || (← peekOp "<<=") || (← peekWord "as")

/-- Fails when a cast is followed by something that would bind to its type. -/
def checkCast : Parse Unit := do
  let kind ← if (← peekOp ".") && !(← peekOp "..") then
      if ← peek2Word "await" then pure (some "`.await`")
      else if (← peek2With TokenStream.startsIdent) &&
          ((← peek3With (·.startsGroup .paren)) || (← peek3Op "::")) then
        pure (some "a method call")
      else pure (some "a field access")
    else if ← peekOp "?" then pure (some "`?`")
    else if ← peekGroup .bracket then pure (some "indexing")
    else if ← peekGroup .paren then pure (some "a function call")
    else pure none
  match kind with
  | some k => failHere ("casts cannot be followed by " ++ k)
  | none => pure ()

namespace Grammar

/-! ### Binary operators -/

/-- The right operand of an operator of strength `prec`: a unary expression extended over the
operators that bind more tightly (or equally, for assignment). -/
def binopRhs (g : Grammar) (allowStruct : Bool) (prec : Prec) : Parse Expr := do
  let rhs ← g.unary allowStruct
  go ((← remaining).length + 1) rhs
where
  /-- Extends the operand while a tighter operator follows. -/
  go : Nat → Expr → Parse Expr
  | 0, rhs => return rhs
  | n + 1, rhs => do
    let next ← peekPrecedence
    if next.rank > prec.rank || (next == prec && prec == .assign) then
      let before := (← remaining).length
      let rhs' ← g.exprFrom rhs allowStruct next
      if (← remaining).length == before then return rhs'
      go n rhs'
    else return rhs

/-- The end of a range after its limits, if there is one. -/
def rangeEnd (g : Grammar) (closed allowStruct : Bool) : Parse (Option Expr) := do
  if !closed && (← rangeEndsHere allowStruct) then return none
  return some (← g.binopRhs allowStruct .range)

/-- One step of extending an expression from the left; `none` when nothing more binds. -/
def extendStep (g : Grammar) (lhs : Expr) (allowStruct : Bool) (base : Prec) :
    Parse (Option Expr) := do
  if lhs.kind.isRange then return none
  match TokenStream.leadingBinOp (← remaining) with
  | some (s, prec) =>
    if prec.rank < base.rank then return none
    if prec == .compare then
      match lhs.kind with
      | .binary .compare => failHere "comparison operators cannot be chained"
      | _ => pure ()
    let o ← op s
    let rhs ← g.binopRhs allowStruct prec
    return some { kind := .binary prec, tokens := lhs.tokens ++ o ++ rhs.tokens }
  | none =>
    if Prec.assign.rank ≥ base.rank && (← peekOp "=") && !(← peekOp "=>") then
      let eq ← op "="
      let rhs ← g.binopRhs allowStruct .assign
      return some { kind := .assign, tokens := lhs.tokens ++ eq ++ rhs.tokens }
    else if Prec.range.rank ≥ base.rank && (← peekOp "..") then
      let (closed, limits) ← exprRangeLimits
      let stop ← g.rangeEnd closed allowStruct
      return some { kind := .range,
                    tokens := lhs.tokens ++ limits ++ ((stop.map (·.tokens)).getD []) }
    else if Prec.cast.rank ≥ base.rank && (← peekWord "as") then
      let a ← word "as"
      let t ← g.ty false
      checkCast
      return some { kind := .cast, tokens := lhs.tokens ++ a ++ t.tokens }
    else return none

/-- Extends an expression from the left with every operator that binds at least as tightly as
`base` (`parse_expr`). -/
def exprFromPlain (g : Grammar) (lhs : Expr) (allowStruct : Bool) (base : Prec) :
    Parse Expr := do
  go ((← remaining).length + 1) lhs
where
  /-- The steps, with a bound on their number. -/
  go : Nat → Expr → Parse Expr
  | 0, e => return e
  | n + 1, e => do
    match ← g.extendStep e allowStruct base with
    | some e' => go n e'
    | none => return e

/-! ### Atoms -/

/-- Expressions separated by commas up to the end of a group. -/
def exprList (g : Grammar) : Parse TokenStream :=
  terminated (do return (← g.expr).tokens)

/-- A parenthesized expression or a tuple. -/
def parenOrTuple (g : Grammar) : Parse Expr := do
  let (kind, inner) ← inGroup .paren do
    if ← atEnd then return (ExprKind.tuple, [])
    let first ← g.expr
    if ← atEnd then return (.paren, first.tokens)
    let rest ← chain do
      if ← atEnd then return none
      let c ← op ","
      if ← atEnd then return some (c, false)
      let v ← g.expr
      return some (c ++ v.tokens, true)
    return (.tuple, first.tokens ++ rest.flatten)
  return { kind := kind, tokens := groupTokens .paren inner }

/-- An array `[a, b]` or a repetition `[x; n]`. -/
def arrayOrRepeat (g : Grammar) : Parse Expr := do
  let (kind, inner) ← inGroup .bracket do
    if ← atEnd then return (ExprKind.array, [])
    let first ← g.expr
    if (← atEnd) || (← peekOp ",") then
      let rest ← chain do
        if ← atEnd then return none
        let c ← op ","
        if ← atEnd then return some (c, false)
        let v ← g.expr
        return some (c ++ v.tokens, true)
      return (.array, first.tokens ++ rest.flatten)
    else if ← peekOp ";" then
      let semi ← op ";"
      let len ← g.expr
      return (.repeatExpr, first.tokens ++ semi ++ len.tokens)
    else failHere "expected `,` or `;`"
  return { kind := kind, tokens := groupTokens .bracket inner }

/-- One field of a struct literal. -/
def fieldValue (g : Grammar) : Parse TokenStream := do
  let attrs ← g.outerAttrs
  let (named, m) ← member
  if (← peekOp ":") || !named then
    let colon ← op ":"
    let v ← g.expr
    return attrsTokens attrs ++ m ++ colon ++ v.tokens
  return attrsTokens attrs ++ m

/-- The braces of a struct literal. -/
def structBody (g : Grammar) : Parse TokenStream := do
  let inner ← inGroup .brace do
    let parts ← chain do
      if ← atEnd then return none
      if ← peekOp ".." then
        let dots ← op ".."
        if ← atEnd then return some (dots, false)
        let base ← g.expr
        return some (dots ++ base.tokens, false)
      let f ← g.fieldValue
      if ← atEnd then return some (f, false)
      let c ← op ","
      return some (f ++ c, true)
    return parts.flatten
  return groupTokens .brace inner

/-- A path expression, a macro invocation, or a struct literal. -/
def pathOrMacroOrStruct (g : Grammar) (allowStruct : Bool) : Parse Expr := do
  let q ← g.qpath true
  if !q.qself && (← peekOp "!") && !(← peekOp "!=") && q.path.isModStyle then
    let bang ← op "!"
    let (d, ts) ← anyGroup
    return { kind := .macroCall d, tokens := q.tokens ++ bang ++ groupTokens d ts }
  if allowStruct && (← peekGroup .brace) then
    return { kind := .struct, tokens := q.tokens ++ (← g.structBody) }
  return { kind := .path, tokens := q.tokens }

/-- A closure parameter: a pattern with an optional type. -/
def closureArg (g : Grammar) : Parse TokenStream := do
  let attrs ← g.outerAttrs
  let p ← g.pat
  if ← peekOp ":" then
    let colon ← op ":"
    let t ← g.type
    return attrsTokens attrs ++ p.tokens ++ colon ++ t.tokens
  return attrsTokens attrs ++ p.tokens

/-- A closure. -/
def closure (g : Grammar) (allowStruct : Bool) : Parse Expr := do
  let lts ← g.optBoundLifetimes
  let c ← optWord "const"
  let s ← optWord "static"
  let a ← optWord "async"
  let m ← optWord "move"
  let bar1 ← op "|"
  let params ← chain do
    if ← peekOp "|" then return none
    let v ← g.closureArg
    if ← peekOp "|" then return some (v, false)
    let comma ← op ","
    return some (v ++ comma, true)
  let bar2 ← op "|"
  let head := lts ++ c.getD [] ++ s.getD [] ++ a.getD [] ++ m.getD [] ++ bar1 ++
    params.flatten ++ bar2
  if ← peekOp "->" then
    let arrow ← op "->"
    let t ← g.type
    let b ← g.plainBlock
    return { kind := .closure, tokens := head ++ arrow ++ t.tokens ++ b }
  let lhs ← g.unary allowStruct
  let body ← g.exprFrom lhs allowStruct .jump
  return { kind := .closure, tokens := head ++ body.tokens }

/-- A `break` expression. -/
def breakExpr (g : Grammar) (allowStruct : Bool) : Parse Expr := do
  let b ← word "break"
  let lbl ← if ← peekLifetime then
      let p ← here
      let (l, _) ← lifetime
      if ← peekOp ":" then
        discard g.expr
        failAt p "parentheses required"
      pure (lifetimeTokens l)
    else pure []
  if (← canBeginExpr) && (allowStruct || !(← peekGroup .brace)) then
    let e ← g.expr
    return { kind := .breakExpr, tokens := b ++ lbl ++ e.tokens }
  return { kind := .breakExpr, tokens := b ++ lbl }

/-- An `if` expression with its `else if` and `else` branches. -/
def ifExpr (g : Grammar) : Parse Expr := do
  let attrs ← g.outerAttrs
  let clauses ← chain do
    let i ← word "if"
    let cond ← g.exprNoStruct
    let thenB ← g.plainBlock
    if !(← peekWord "else") then return some (i ++ cond.tokens ++ thenB, false)
    let e ← word "else"
    if ← peekWord "if" then return some (i ++ cond.tokens ++ thenB ++ e, true)
    else if ← peekGroup .brace then
      let elseB ← g.plainBlock
      return some (i ++ cond.tokens ++ thenB ++ e ++ elseB, false)
    else expectedOneOf ["`if`", "curly braces"]
  return { kind := .ifExpr, tokens := attrsTokens attrs ++ clauses.flatten }

/-- A `while` loop. -/
def whileExpr (g : Grammar) : Parse Expr := do
  let attrs ← g.outerAttrs
  let lbl ← label
  let w ← word "while"
  let cond ← g.exprNoStruct
  let b ← g.block
  return { kind := .whileLoop, tokens := attrsTokens attrs ++ lbl.getD [] ++ w ++ cond.tokens ++ b }

/-- A `for` loop. -/
def forExpr (g : Grammar) : Parse Expr := do
  let attrs ← g.outerAttrs
  let lbl ← label
  let f ← word "for"
  let p ← g.patMulti true
  let i ← word "in"
  let e ← g.exprNoStruct
  let b ← g.block
  return { kind := .forLoop,
           tokens := attrsTokens attrs ++ lbl.getD [] ++ f ++ p.tokens ++ i ++ e.tokens ++ b }

/-- A `loop`. -/
def loopExpr (g : Grammar) : Parse Expr := do
  let attrs ← g.outerAttrs
  let lbl ← label
  let l ← word "loop"
  let b ← g.block
  return { kind := .loopExpr, tokens := attrsTokens attrs ++ lbl.getD [] ++ l ++ b }

/-- An `unsafe` block. -/
def unsafeExpr (g : Grammar) : Parse Expr := do
  let attrs ← g.outerAttrs
  let u ← word "unsafe"
  let b ← g.block
  return { kind := .unsafeBlock, tokens := attrsTokens attrs ++ u ++ b }

/-- A `try` block. -/
def tryBlockExpr (g : Grammar) : Parse Expr := do
  let attrs ← g.outerAttrs
  let t ← word "try"
  let b ← g.plainBlock
  return { kind := .tryBlock, tokens := attrsTokens attrs ++ t ++ b }

/-- An `async` block. -/
def asyncExpr (g : Grammar) : Parse Expr := do
  let attrs ← g.outerAttrs
  let a ← word "async"
  let m ← optWord "move"
  let b ← g.plainBlock
  return { kind := .async, tokens := attrsTokens attrs ++ a ++ m.getD [] ++ b }

/-- An arm of a `match`. -/
def matchArm (g : Grammar) : Parse TokenStream := do
  let attrs ← g.outerAttrs
  let p ← g.patMulti true
  let guard ← if ← peekWord "if" then
      let i ← word "if"
      pure (i ++ (← g.expr).tokens)
    else pure []
  let arrow ← op "=>"
  let body ← g.stmtExpr
  let comma ← if body.kind.requiresComma && !(← atEnd) then some <$> op ","
    else opt ","
  return attrsTokens attrs ++ p.tokens ++ guard ++ arrow ++ body.tokens ++ comma.getD []

/-- A `match` expression. -/
def matchExpr (g : Grammar) : Parse Expr := do
  let attrs ← g.outerAttrs
  let m ← word "match"
  let scrutinee ← g.exprNoStruct
  let inner ← inGroup .brace do
    let inner ← g.innerAttrs
    let arms ← many do
      if ← atEnd then return none
      return some (← g.matchArm)
    return attrsTokens inner ++ arms.flatten
  return { kind := .matchExpr,
           tokens := attrsTokens attrs ++ m ++ scrutinee.tokens ++ groupTokens .brace inner }

/-- A labeled loop or block: `'a: loop { .. }`. -/
def labeled (g : Grammar) : Parse Expr := do
  let (l, _) ← lifetime
  let colon ← op ":"
  let lbl := lifetimeTokens l ++ colon
  let e ← if ← peekWord "while" then g.whileExpr
    else if ← peekWord "for" then g.forExpr
    else if ← peekWord "loop" then g.loopExpr
    else if ← peekGroup .brace then g.blockExpr
    else failHere "expected loop or block expression"
  return { e with tokens := lbl ++ e.tokens }

/-- An atom: a literal, path, block, loop, closure, or a parenthesized or bracketed
expression. -/
def atom (g : Grammar) (allowStruct : Bool) : Parse Expr := do
  if ← peekLit then
    let l ← lit
    return { kind := .lit l, tokens := l.tokens }
  if (← peekWord "async") && ((← peek2Group .brace) ||
      ((← peek2Word "move") && (← peek3With (·.startsGroup .brace)))) then
    return (← g.asyncExpr)
  if (← peekWord "try") && (← peek2Group .brace) then return (← g.tryBlockExpr)
  let isClosure := (← peekOp "|") || (← peekWord "move") ||
    ((← peekWord "for") && (← genericsAfterKeyword)) ||
    ((← peekWord "const") && !(← peek2Group .brace)) || (← peekWord "static") ||
    ((← peekWord "async") && ((← peek2Op "|") || (← peek2Word "move")))
  if isClosure then return (← g.closure allowStruct)
  if (← peekWord "builtin") && (← peek2Op "#") then
    let begin ← remaining
    discard <| anyIdent
    discard <| op "#"
    discard <| ident
    discard <| inGroup .paren (do skip (← remaining).length)
    return { kind := .verbatim, tokens := ← readSince begin }
  if (← peekIdent) || (← peekOp "::") || (← peekOp "<") || (← peekWord "self") ||
      (← peekWord "Self") || (← peekWord "super") || (← peekWord "crate") ||
      ((← peekWord "try") && ((← peek2Op "!") || (← peek2Op "::"))) then
    return (← g.pathOrMacroOrStruct allowStruct)
  if ← peekGroup .paren then return (← g.parenOrTuple)
  if ← peekWord "break" then return (← g.breakExpr allowStruct)
  if ← peekWord "continue" then
    let c ← word "continue"
    let lbl ← if ← peekLifetime then
        let (l, _) ← lifetime
        pure (lifetimeTokens l)
      else pure []
    return { kind := .continueExpr, tokens := c ++ lbl }
  if ← peekWord "return" then
    let r ← word "return"
    if ← canBeginExpr then
      let e ← g.expr
      return { kind := .returnExpr, tokens := r ++ e.tokens }
    return { kind := .returnExpr, tokens := r }
  if ← peekWord "become" then
    let begin ← remaining
    discard <| word "become"
    discard g.expr
    return { kind := .verbatim, tokens := ← readSince begin }
  if ← peekGroup .bracket then return (← g.arrayOrRepeat)
  if ← peekWord "let" then
    let l ← word "let"
    let p ← g.patMulti true
    let eq ← op "="
    let lhs ← g.unary allowStruct
    let e ← g.exprFrom lhs allowStruct .compare
    return { kind := .letExpr, tokens := l ++ p.tokens ++ eq ++ e.tokens }
  if ← peekWord "if" then return (← g.ifExpr)
  if ← peekWord "while" then return (← g.whileExpr)
  if ← peekWord "for" then return (← g.forExpr)
  if ← peekWord "loop" then return (← g.loopExpr)
  if ← peekWord "match" then return (← g.matchExpr)
  if ← peekWord "yield" then
    let y ← word "yield"
    if ← canBeginExpr then
      let e ← g.expr
      return { kind := .yieldExpr, tokens := y ++ e.tokens }
    return { kind := .yieldExpr, tokens := y }
  if ← peekWord "unsafe" then return (← g.unsafeExpr)
  if ← peekWord "const" then return (← g.constBlock)
  if ← peekGroup .brace then return (← g.blockExpr)
  if ← peekOp ".." then
    let (closed, limits) ← exprRangeLimits
    let stop ← g.rangeEnd closed allowStruct
    return { kind := .range, tokens := limits ++ ((stop.map (·.tokens)).getD []) }
  if ← peekWord "_" then return { kind := .infer, tokens := ← word "_" }
  if ← peekLifetime then return (← g.labeled)
  failHere "expected an expression"

/-- Splits a float token after a dot into tuple indices (`x.0.1`), each part read as a tuple
index of its own; answers the new expression and whether the float ended in a dot. -/
def multiIndex (e : Expr) (dot : TokenStream) (l : Lit) : Parse (Expr × Bool) := do
  let trailingDot := l.text.endsWith "."
  let body := if trailingDot then (l.text.dropEnd 1).toString else l.text
  let indices ← (body.splitOn ".").mapM fun part =>
    match tupleIndex part with
    | .ok v => pure v
    | .error message => failAt l.pos message
  let tokens := indices.foldl (fun acc v =>
    acc ++ dot ++ [TokenTree.literal (toString v) l.pos]) e.tokens
  return ({ kind := .field, tokens := tokens }, trailingDot)

/-- One postfix step: a call, method call, field access, index or `?`; `none` when none
follows. -/
def postfixStep (g : Grammar) (e : Expr) : Parse (Option Expr) := do
  if ← peekGroup .paren then
    let args ← inGroup .paren g.exprList
    return some { kind := .call, tokens := e.tokens ++ groupTokens .paren args }
  if (← peekOp ".") && !(← peekOp "..") && !e.kind.isRange then
    let dot ← op "."
    let mut e := e
    if ← peekWith (·.startsLitOf .float) then
      let l ← lit
      let (e', trailing) ← multiIndex e dot l
      if !trailing then return some e'
      e := e'
    if ← peekWord "await" then
      let a ← word "await"
      return some { kind := .await, tokens := e.tokens ++ dot ++ a }
    let (named, m) ← member
    let turbofish ← if named && (← peekOp "::") then g.angleArgs else pure []
    if named && (!turbofish.isEmpty || (← peekGroup .paren)) then
      let args ← inGroup .paren g.exprList
      return some { kind := .methodCall,
                    tokens := e.tokens ++ dot ++ m ++ turbofish ++ groupTokens .paren args }
    return some { kind := .field, tokens := e.tokens ++ dot ++ m }
  if ← peekGroup .bracket then
    let index ← inGroup .bracket g.expr
    return some { kind := .index, tokens := e.tokens ++ groupTokens .bracket index.tokens }
  if (← peekOp "?") && !e.kind.isRange then
    let q ← op "?"
    return some { kind := .tryExpr, tokens := e.tokens ++ q }
  return none

/-- The postfix chain after an expression. -/
def postfixChain (g : Grammar) (e : Expr) : Parse Expr := do
  go ((← remaining).length + 1) e
where
  /-- The steps, with a bound on their number. -/
  go : Nat → Expr → Parse Expr
  | 0, e => return e
  | n + 1, e => do
    match ← g.postfixStep e with
    | some e' => go n e'
    | none => return e

/-- Outer attributes in front of an expression. -/
def exprAttrs (g : Grammar) : Parse (List Attribute) := g.outerAttrs

/-- A unary expression: prefix operators over an atom and its postfix chain (`unary_expr`).
Attributes may not stand before a range that starts with `..`. -/
def unaryPlain (g : Grammar) (allowStruct : Bool) : Parse Expr := do
  let attrs ← g.exprAttrs
  let pre := attrsTokens attrs
  if ← peekOp "&" then
    let amp ← op "&"
    let raw ← if (← peekWord "raw") && ((← peek2Word "mut") || (← peek2Word "const")) then
        some <$> anyIdent
      else pure none
    let m ← optWord "mut"
    let c ← if raw.isSome && m.isNone then some <$> word "const" else pure none
    let inner ← g.unary allowStruct
    let rawTokens := match raw with
      | some (s, p) => [TokenTree.ident s p]
      | none => []
    return { kind := if raw.isSome then .rawAddr else .reference,
             tokens := pre ++ amp ++ rawTokens ++ m.getD [] ++ c.getD [] ++ inner.tokens }
  if (← peekOp "*") || (← peekOp "!") || (← peekOp "-") then
    let o ← if ← peekOp "*" then op "*" else if ← peekOp "!" then op "!" else op "-"
    let inner ← g.unary allowStruct
    return { kind := .unary, tokens := pre ++ o ++ inner.tokens }
  let at_ ← here
  let a ← g.atom allowStruct
  let e ← g.postfixChain a
  if !attrs.isEmpty && e.kind.isRange then
    failAt at_ "attributes are not allowed on range expressions starting with `..`"
  return { e with tokens := pre ++ e.tokens }

/-- An expression in statement position (`parse_with_earlier_boundary_rule`). -/
def stmtExprPlain (g : Grammar) : Parse Expr := do
  let attrs ← g.exprAttrs
  let pre := attrsTokens attrs
  let e ← if ← peekWord "if" then g.ifExpr
    else if ← peekWord "while" then g.whileExpr
    else if (← peekWord "for") && !(← genericsAfterKeyword) then g.forExpr
    else if ← peekWord "loop" then g.loopExpr
    else if ← peekWord "match" then g.matchExpr
    else if (← peekWord "try") && (← peek2Group .brace) then g.tryBlockExpr
    else if ← peekWord "unsafe" then g.unsafeExpr
    else if (← peekWord "const") && (← peek2Group .brace) then g.constBlock
    else if ← peekGroup .brace then g.blockExpr
    else if ← peekLifetime then g.labeled
    else g.unary true
  let e := { e with tokens := pre ++ e.tokens }
  if !e.kind.isBlockLike then return (← g.exprFrom e true .jump)
  if ((← peekOp ".") && !(← peekOp "..")) || (← peekOp "?") then
    let e' ← g.postfixChain e
    return (← g.exprFrom e' true .jump)
  return e

end Grammar

end Augment.Rust
