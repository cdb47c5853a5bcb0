import Augment.Rust.Syntax.Path

/-!
# Types

The grammar of types: paths, references and pointers, arrays and slices, tuples and
parenthesized types, function pointers, `impl` and `dyn` trait bounds (where `Fn(A) -> B`
arguments may follow a path), the never type `!`, the placeholder `_`, and macro invocations in
type position.

After a path, `+` starts a list of trait bounds when bounds are allowed there; after `&T` or a
function pointer's return type they are not, so that `&A + B` is a type `&A` followed by `+`.

Generic arguments live here too, since they mix types, bounds (`Item: Display`), lifetimes and
constants.
-/

namespace Augment.Rust

open Parse

/-- What a trait bound turned out to be. -/
inductive BoundKind where
  | lifetime
  | trait
  /-- A `use<..>` capture list. -/
  | capture
  /-- A bound kept as written, such as one with `const`. -/
  | verbatim
  deriving DecidableEq, Repr, Inhabited

namespace Grammar

/-! ### Pieces -/

/-- The parameter list of `for<'a, 'b>`, whose parameters are read as generic parameters of
any kind, bounds and defaults included; answers its printed tokens. -/
def boundLifetimes (g : Grammar) : Parse TokenStream := do
  let forTok ← word "for"
  let lt ← op "<"
  let params ← many do
    if ← peekOp ">" then return none
    let (_, piece) ← g.genericParam
    if ← peekOp ">" then return some piece
    let comma ← op ","
    return some (piece ++ comma)
  let gt ← op ">"
  return forTok ++ lt ++ params.flatten ++ gt

/-- `for<..>` if it comes next. -/
def optBoundLifetimes (g : Grammar) : Parse TokenStream := do
  if ← peekWord "for" then g.boundLifetimes else return []

/-- `extern` with an optional ABI string, if it comes next. -/
def optAbi : Parse TokenStream := do
  if ← peekWord "extern" then
    let e ← word "extern"
    if ← peekWith (·.startsLitOf .str) then
      let l ← lit
      return e ++ l.tokens
    return e
  else return []

/-- `-> T` if it comes next; answers the type and the printed tokens. -/
def returnType (g : Grammar) (allowPlus : Bool) : Parse (Option Ty × TokenStream) := do
  if ← peekOp "->" then
    let arrow ← op "->"
    let t ← g.ty allowPlus
    return (some t, arrow ++ t.tokens)
  else return (none, [])

/-- Items separated by commas up to the end of the group, a trailing comma allowed. -/
def terminated (item : Parse TokenStream) : Parse TokenStream := do
  let parts ← many do
    if ← atEnd then return none
    let v ← item
    if ← atEnd then return some v
    let comma ← op ","
    return some (v ++ comma)
  return parts.flatten

/-- `(A, B) -> C` after the last segment of a trait bound's path; answers the printed tokens.
The return type takes no `+`, which is left to the bounds. -/
def parenArgs (g : Grammar) : Parse TokenStream := do
  let inputs ← inGroup .paren (terminated (do return (← g.type).tokens))
  let (_, outTokens) ← g.returnType false
  return groupTokens .paren inputs ++ outTokens

/-- Gives the last segment of a path parenthesized arguments. -/
def Path.withParenArgs (p : Path) (args : TokenStream) : Path :=
  match p.segments.reverse with
  | last :: before =>
    { p with segments := (({ last with args := .paren, argTokens := args } : Segment) ::
      before).reverse }
  | [] => p

/-- Whether the last segment of a path has no arguments. -/
def Path.lastBare (p : Path) : Bool :=
  match p.segments.getLast? with
  | some s => s.args == .none
  | none => false

/-! ### Bounds -/

/-- A trait bound; `none` when it is marked `const` and so kept as written. A `for<..>` binder
may stand before or after a `?`, but not together with it. -/
def traitBound (g : Grammar) (allowConst : Bool) : Parse (Option TokenStream) := do
  let mut lts ← g.optBoundLifetimes
  let condConst ← peekGroup .bracket
  let uncondConst ← peekWord "const"
  if condConst then
    let p ← here
    inGroup .bracket (discard <| word "const")
    if !allowConst then failAt p "`[const]` is not allowed here"
  else if uncondConst then
    let p ← here
    discard <| word "const"
    if !allowConst then failAt p "`const` is not allowed here"
  let modifierAt ← here
  let modifier ← opt "?"
  if lts.isEmpty && modifier.isSome then
    lts ← g.optBoundLifetimes
  let mut path ← g.path
  if Path.lastBare path &&
      ((← peekGroup .paren) || ((← peekOp "::") && (← peek3With (·.startsGroup .paren)))) then
    discard <| opt "::"
    let args ← g.parenArgs
    path := Path.withParenArgs path args
  if !lts.isEmpty && modifier.isSome then
    failAt modifierAt "`for<...>` binder not allowed with `?` trait polarity modifier"
  if condConst || uncondConst then return none
  return some (modifier.getD [] ++ lts ++ path.tokens)

/-- A `use<'a, T>` capture list. -/
def preciseCapture : Parse TokenStream := do
  let u ← word "use"
  let lt ← op "<"
  let parts ← many do
    let item ← if ← peekLifetime then
        let (l, _) ← lifetime
        pure (lifetimeTokens l)
      else if (← peekIdent) || (← peekWord "Self") then
        let (s, p) ← anyIdent
        pure [TokenTree.ident s p]
      else if ← peekOp ">" then return none
      else expectedOneOf ["lifetime", "identifier", "`>`"]
    if ← peekOp "," then
      let c ← op ","
      return some (item ++ c)
    else if ← peekOp ">" then return some item
    else expectedOneOf ["`,`", "`>`"]
  let gt ← op ">"
  return u ++ lt ++ parts.flatten ++ gt

/-- One bound of a list of bounds. -/
def bound (g : Grammar) (allowCapture allowConst : Bool) : Parse (BoundKind × TokenStream) := do
  if ← peekLifetime then
    let (l, _) ← lifetime
    return (.lifetime, lifetimeTokens l)
  if ← peekWord "use" then
    let p ← here
    let ts ← preciseCapture
    if allowCapture then return (.capture, ts)
    else failAt p "`use<...>` precise capturing syntax is not allowed here"
  let begin ← remaining
  if ← peekGroup .paren then
    match ← inGroup .paren (g.traitBound allowConst) with
    | some ts => return (.trait, groupTokens .paren ts)
    | none => return (.verbatim, ← readSince begin)
  else
    match ← g.traitBound allowConst with
    | some ts => return (.trait, ts)
    | none => return (.verbatim, ← readSince begin)

/-- Whether a bound can start here, after a `+`. -/
def peekBoundStart (allowConst : Bool) : Parse Bool := do
  return (← peekWith TokenStream.startsAnyIdent) || (← peekOp "::") || (← peekOp "?") ||
    (← peekLifetime) || (← peekGroup .paren) ||
    (allowConst && ((← peekGroup .bracket) || (← peekWord "const")))

/-- Bounds joined by `+` (only one when `allowPlus` is off); answers their kinds, the printed
tokens, and whether the list ended in `+`. -/
def bounds (g : Grammar) (allowPlus allowCapture allowConst : Bool) :
    Parse (List BoundKind × TokenStream × Bool) := do
  let (k, ts) ← g.bound allowCapture allowConst
  let more : List (Option BoundKind × TokenStream) ← chain do
    if !(allowPlus && (← peekOp "+")) then return none
    let plus ← op "+"
    if !(← peekBoundStart allowConst) then return some ((none, plus), false)
    let (k', ts') ← g.bound allowCapture allowConst
    return some ((some k', plus ++ ts'), true)
  let kinds := k :: more.filterMap (·.1)
  let trailing := match more.getLast? with
    | some (none, _) => true
    | _ => false
  return (kinds, ts ++ (more.map (·.2)).flatten, trailing)

/-- Bounds after `+` that always continue: each `+` is followed by a bound. -/
def plusBounds (g : Grammar) : Parse (Nat × TokenStream) := do
  let more ← many do
    match ← opt "+" with
    | none => return none
    | some plus =>
      let (_, ts) ← g.bound false false
      return some (plus ++ ts)
  return (more.length, more.flatten)

/-- The bounds of a trait object: at least one must be a trait. -/
def objectBounds (g : Grammar) (dynPos : Pos) (allowPlus : Bool) :
    Parse (Nat × TokenStream × Bool) := do
  let (kinds, ts, trailing) ← g.bounds allowPlus false false
  if !kinds.contains .trait then
    failAt dynPos "at least one trait is required for an object type"
  return (kinds.length, ts, trailing)

/-! ### Type paths -/

/-- A path type, possibly qualified. Parenthesized arguments (`Fn(A) -> B`) belong to trait
bounds only: in a type they end the path, and the parenthesis is left unread. -/
def typePath (g : Grammar) : Parse QPath := g.qpath false

/-! ### Types -/

/-- One parameter of a function pointer type after its attributes; `allowSelf` admits a `self`
parameter, which only the first may be. A `mut self` parameter, with or without a type, is kept
as written. -/
def bareFnArg (g : Grammar) (allowSelf : Bool) : Parse TokenStream := do
  let begin ← remaining
  let hasMutSelf := allowSelf && (← peekWord "mut") && (← peek2Word "self")
  if hasMutSelf then discard <| word "mut"
  let selfFirst := allowSelf && (← peekWord "self")
  let named := ((← peekIdent) || (← peekWord "_") || selfFirst) && (← peek2Op ":") &&
    !(← peek2Op "::")
  let name ← if named then
      let (s, p) ← anyIdent
      let c ← op ":"
      pure ([TokenTree.ident s p] ++ c)
    else pure []
  let hasSelf := named && selfFirst
  let ty ← if allowSelf && !hasSelf && (← peekWord "mut") && (← peek2Word "self") then
      discard <| word "mut"
      discard <| word "self"
      pure none
    else if hasMutSelf && !named then
      discard <| word "self"
      pure none
    else pure (some (← g.type))
  match ty with
  | some t => if hasMutSelf then readSince begin else return name ++ t.tokens
  | none => readSince begin

/-- The variadic parameter of a function pointer type after its attributes: `...`, or
`name: ...`, with the comma after it if any. -/
def bareVariadic : Parse TokenStream := do
  let name ← if (← peekIdent) || (← peekWord "_") then
      let (s, p) ← anyIdent
      let c ← op ":"
      pure ([TokenTree.ident s p] ++ c)
    else pure []
  let dots ← op "..."
  let comma ← opt ","
  return name ++ dots ++ comma.getD []

/-- A function pointer type, `unsafe extern "C" fn(A) -> B`. A variadic parameter ends the
parameters. -/
def bareFn (g : Grammar) (lifetimes : TokenStream) : Parse Ty := do
  let lts ← if lifetimes.isEmpty then g.optBoundLifetimes else pure lifetimes
  let uns ← optWord "unsafe"
  let abi ← optAbi
  let fnTok ← word "fn"
  let args ← inGroup .paren do
    let start := (← remaining).length
    let parts ← chain do
      if ← atEnd then return none
      let allowSelf := (← remaining).length == start
      let attrs ← g.outerAttrs
      if (← peekOp "...") || (((← peekIdent) || (← peekWord "_")) && (← peek2Op ":") &&
          (← peek3Op "...")) then
        return some (attrsTokens attrs ++ (← bareVariadic), false)
      let a ← g.bareFnArg allowSelf
      if ← atEnd then return some (attrsTokens attrs ++ a, false)
      let c ← op ","
      return some (attrsTokens attrs ++ a ++ c, true)
    return parts.flatten
  let (_, out) ← g.returnType false
  return { shape := .other,
           tokens := lts ++ uns.getD [] ++ abi ++ fnTok ++ groupTokens .paren args ++ out }

/-- The types in a tuple after its first element and comma. -/
def tupleRest (g : Grammar) : Parse TokenStream := do
  let parts ← many do
    if ← atEnd then return none
    let t ← g.type
    if ← atEnd then return some t.tokens
    let c ← op ","
    return some (t.tokens ++ c)
  return parts.flatten

/-- What a parenthesized type turned out to be. -/
inductive ParenForm where
  | tuple
  | object
  | single (inner : Ty)

/-- A type that starts with parentheses: a tuple, a parenthesized type, or bounds. -/
def parenTy (g : Grammar) (allowPlus : Bool) : Parse Ty := do
  let (form, inner) ← inGroup .paren do
    if ← atEnd then return (ParenForm.tuple, [])
    if ← peekLifetime then
      let (n, ts, trailing) ← g.objectBounds (← here) true
      return (.single { shape := .traitObject false n trailing, tokens := ts }, ts)
    if ← peekOp "?" then
      match ← g.traitBound false with
      | some ts => return (.object, ts)
      | none => return (.object, [])
    let first ← g.type
    if ← peekOp "," then
      let c ← op ","
      let rest ← g.tupleRest
      return (.tuple, first.tokens ++ c ++ rest)
    return (.single first, first.tokens)
  let group := groupTokens .paren inner
  match form with
  | .tuple => return { shape := .other, tokens := group }
  | .object =>
    let (n, more) ← g.plusBounds
    return { shape := .traitObject false (n + 1) false, tokens := group ++ more }
  | .single first =>
    let single := match first.shape with
      | .path false _ => true
      | .traitObject false 1 false => true
      | _ => false
    if allowPlus && (← peekOp "+") && single then
      let (n, more) ← g.plusBounds
      return { shape := .traitObject false (n + 1) false, tokens := group ++ more }
    return { shape := .paren, tokens := group }

/-- The comparisons a type's lookahead makes when nothing matches. -/
def typeExpectations : List String :=
  ["`for`", "parentheses", "`fn`", "`unsafe`", "`extern`", "identifier", "`::`", "`<`", "`dyn`",
   "square brackets", "`*`", "`&`", "`!`", "`impl`", "`_`", "lifetime"]

/-- A type that starts with a path: a path type, a macro invocation, or trait bounds. -/
def pathTy (g : Grammar) (allowPlus : Bool) (lifetimes : TokenStream) : Parse Ty := do
  let q ← g.typePath
  if q.qself then return { shape := .path true q.path, tokens := q.tokens }
  if (← peekOp "!") && !(← peekOp "!=") && q.path.isModStyle then
    let bang ← op "!"
    let (d, ts) ← anyGroup
    return { shape := .other, tokens := q.tokens ++ bang ++ groupTokens d ts }
  if !lifetimes.isEmpty || (allowPlus && (← peekOp "+")) then
    let first := lifetimes ++ q.tokens
    if allowPlus then
      let more : List (Option Unit × TokenStream) ← chain do
        if !(← peekOp "+") then return none
        let plus ← op "+"
        if !(← peekBoundStart false) then return some ((none, plus), false)
        let (_, ts) ← g.bound false false
        return some ((some (), plus ++ ts), true)
      let trailing := match more.getLast? with
        | some (none, _) => true
        | _ => false
      let n := 1 + (more.filter (·.1.isSome)).length
      return { shape := .traitObject false n trailing, tokens := first ++ (more.map (·.2)).flatten }
    return { shape := .traitObject false 1 false, tokens := first }
  return { shape := .path false q.path, tokens := q.tokens }

/-- A type (`ambig_ty`); `allowPlus` admits `+` bounds after a path. -/
def ambigTy (g : Grammar) (allowPlus : Bool) : Parse Ty := do
  let mut lifetimes : TokenStream := []
  let sawFor ← peekWord "for"
  if sawFor then
    lifetimes ← g.boundLifetimes
    let ok := (← peekIdent) || (← peekWord "fn") || (← peekWord "unsafe") ||
      (← peekWord "extern") || (← peekWord "super") || (← peekWord "self") ||
      (← peekWord "Self") || (← peekWord "crate")
    if !ok || (← peekWord "dyn") then
      expectedOneOf ["identifier", "`fn`", "`unsafe`", "`extern`", "`super`", "`self`", "`Self`",
        "`crate`"]
  if ← peekGroup .paren then g.parenTy allowPlus
  else if (← peekWord "fn") || (← peekWord "unsafe") || (← peekWord "extern") then
    g.bareFn lifetimes
  else if (← peekWord "builtin") && (← peek2Op "#") then
    let begin ← remaining
    discard <| anyIdent
    discard <| op "#"
    discard <| ident
    discard <| inGroup .paren (do skip (← remaining).length)
    return { shape := .other, tokens := ← readSince begin }
  else if (← peekIdent) || (← peekWord "super") || (← peekWord "self") ||
      (← peekWord "Self") || (← peekWord "crate") || (← peekOp "::") || (← peekOp "<") then
    g.pathTy allowPlus lifetimes
  else if ← peekWord "dyn" then
    let p ← here
    let d ← word "dyn"
    let star ← opt "*"
    let begin := d
    let (n, ts, trailing) ← g.objectBounds p allowPlus
    match star with
    | some s => return { shape := .other, tokens := begin ++ s ++ ts }
    | none => return { shape := .traitObject true n trailing, tokens := d ++ ts }
  else if ← peekGroup .bracket then
    let (isArray, inner) ← inGroup .bracket do
      let elem ← g.type
      if ← peekOp ";" then
        let semi ← op ";"
        let len ← g.expr
        return (true, elem.tokens ++ semi ++ len.tokens)
      return (false, elem.tokens)
    let _ := isArray
    return { shape := .other, tokens := groupTokens .bracket inner }
  else if ← peekOp "*" then
    let star ← op "*"
    let q ← if ← peekWord "const" then word "const"
      else if ← peekWord "mut" then word "mut"
      else expectedOneOf ["`const`", "`mut`"]
    let elem ← g.ty false
    return { shape := .other, tokens := star ++ q ++ elem.tokens }
  else if ← peekOp "&" then
    let amp ← op "&"
    let lt ← if ← peekLifetime then
        let (l, _) ← lifetime
        pure (lifetimeTokens l)
      else pure []
    let m ← optWord "mut"
    let elem ← g.ty false
    return { shape := .other, tokens := amp ++ lt ++ m.getD [] ++ elem.tokens }
  else if ← peekOp "!" then
    let bang ← op "!"
    return { shape := .other, tokens := bang }
  else if ← peekWord "impl" then
    let p ← here
    let i ← word "impl"
    let (kinds, ts, _) ← g.bounds allowPlus true true
    if !(kinds.contains .trait || kinds.contains .verbatim) then
      failAt p "at least one trait must be specified"
    return { shape := .other, tokens := i ++ ts }
  else if ← peekWord "_" then
    let u ← word "_"
    return { shape := .other, tokens := u }
  else if ← peekLifetime then
    let (n, ts, trailing) ← g.objectBounds (← here) true
    return { shape := .traitObject false n trailing, tokens := ts }
  else
    expectedOneOf (if sawFor then
      ["identifier", "`fn`", "`unsafe`", "`extern`", "`super`", "`self`", "`Self`", "`crate`",
       "parentheses", "`::`", "`<`", "`dyn`", "square brackets", "`*`", "`&`", "`!`", "`impl`",
       "`_`", "lifetime"]
      else typeExpectations)

/-! ### Generic arguments -/

/-- A constant generic argument: a literal, an identifier, or a block. -/
def constArgument (g : Grammar) : Parse Expr := do
  if ← peekLit then
    let l ← lit
    return { kind := .lit l, tokens := l.tokens }
  if ← peekIdent then
    let (s, p) ← ident
    return { kind := .path, tokens := [.ident s p] }
  if ← peekGroup .brace then return (← g.blockExpr)
  expectedOneOf []

/-- Whether a type is a path of one segment, with no leading `::` and no parenthesized
arguments: the only type that an associated type or constant may be bound after. -/
def Ty.isBindingName (t : Ty) : Bool :=
  match t.shape with
  | .path false p => !p.leadingColon && p.segments.length == 1 &&
      p.segments.all (·.args != SegmentArgs.paren)
  | _ => false

/-- One generic argument that is not a lifetime: a type, a constant, or an associated type or
constant with its value or bounds. -/
def nonLifetimeArgument (g : Grammar) : Parse TokenStream := do
  if (← peekLit) || (← peekGroup .brace) then
    return (← g.constArgument).tokens
  let t ← g.type
  if Ty.isBindingName t then
    if ← peekOp "=" then
      let eq ← op "="
      if (← peekLit) || (← peekGroup .brace) then
        return t.tokens ++ eq ++ (← g.constArgument).tokens
      else
        return t.tokens ++ eq ++ (← g.type).tokens
    if ← peekOp ":" then
      let colon ← op ":"
      let parts ← chain do
        if (← peekOp ",") || (← peekOp ">") then return none
        let (_, b) ← g.bound false true
        if !(← peekOp "+") then return some (b, false)
        let plus ← op "+"
        return some (b ++ plus, true)
      return t.tokens ++ colon ++ parts.flatten
  return t.tokens

/-- One generic argument, and whether it is a lifetime. -/
def genericArgument (g : Grammar) : Parse (Bool × TokenStream) := do
  if (← peekLifetime) && !(← peek2Op "+") then
    let (l, _) ← lifetime
    return (true, lifetimeTokens l)
  return (false, ← g.nonLifetimeArgument)

/-- Generic arguments in angle brackets, with an optional `::` before them. -/
def angleArgsPlain (g : Grammar) : Parse TokenStream := do
  let colons ← opt "::"
  let lt ← op "<"
  let args ← many do
    if ← peekOp ">" then return none
    let (isLifetime, a) ← g.genericArgument
    if ← peekOp ">" then return some { isLifetime, tokens := a, comma := false }
    discard <| op ","
    return some { isLifetime, tokens := a, comma := true }
  let gt ← op ">"
  return colons.getD [] ++ lt ++ lifetimesFirst args ++ gt

end Grammar

end Augment.Rust
