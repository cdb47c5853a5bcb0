import Augment.Rust.Syntax.Block

/-!
# Items

The items of a module: functions, structs, enums, unions, impl blocks, traits, `use` and
`extern crate` declarations, modules, constants and statics, type aliases, foreign blocks and
macro invocations.

What an item is is decided by the word after its attributes and visibility. Forms that the
syntax tree has no node for (a function without a body, a `static` without a type, an impl of
something that is not a trait) are still read, and kept only as their tokens.
-/

namespace Augment.Rust

open Parse

/-- A function signature, as far as later stages look at it. -/
structure Signature where
  /-- The function's name. -/
  ident : String
  /-- Whether the first parameter is `self`. -/
  takesSelf : Bool
  /-- The number of parameters, `self` included. -/
  params : Nat
  /-- The declared return type. -/
  output : Option Ty
  /-- The printed signature. -/
  tokens : TokenStream
  deriving Inhabited

/-- Whether a function signature starts at the start of `ts`: optional `const`, `async`,
`unsafe` (or `safe` where allowed) and ABI, then `fn`. -/
def startsSignature (ts : TokenStream) (allowSafe : Bool) : Bool :=
  let ts : TokenStream := if ts.startsWord "const" then ts.drop 1 else ts
  let ts : TokenStream := if ts.startsWord "async" then ts.drop 1 else ts
  let ts : TokenStream := if ts.startsWord "unsafe" then ts.drop 1
    else if allowSafe && ts.startsWord "safe" then ts.drop 1 else ts
  let ts : TokenStream := if ts.startsWord "extern" then
      if TokenStream.startsLitOf (ts.drop 1) .str then ts.drop 2 else ts.drop 1
    else ts
  ts.startsWord "fn"

/-- The item keywords a lookahead compares against, in order. -/
def itemExpectations (inherited : Bool) : List String :=
  ["`fn`", "`extern`", "`use`", "`static`", "`const`", "`unsafe`", "`mod`", "`type`",
   "`struct`", "`enum`", "`union`", "`trait`", "`auto`", "`impl`", "`default`", "`macro`"] ++
  (if inherited then ["identifier", "`self`", "`super`", "`crate`", "`::`"] else [])

namespace Grammar

/-! ### Functions -/

/-- A `self` parameter: `self`, `mut self`, `&self`, `&'a mut self`, or `self: Type`. -/
def receiver (g : Grammar) : Parse TokenStream := do
  let reference ← if ← peekOp "&" then
      let amp ← op "&"
      let lt ← if ← peekLifetime then
          let (l, _) ← lifetime
          pure (lifetimeTokens l)
        else pure []
      pure (some (amp ++ lt))
    else pure none
  let m ← optWord "mut"
  let s ← word "self"
  if reference.isNone then
    if ← peekOp ":" then
      let colon ← op ":"
      let t ← g.type
      return m.getD [] ++ s ++ colon ++ t.tokens
  return reference.getD [] ++ m.getD [] ++ s

/-- A function parameter; answers whether it is a receiver (with where its `self` stands),
whether it is variadic, and its printed tokens. -/
def fnArg (g : Grammar) (allowVariadic : Bool) :
    Parse (Option Pos × Bool × TokenStream) := do
  let attrs ← g.outerAttrs
  let pre := attrsTokens attrs
  let selfPos ← lookahead do
    discard <| opt "&"
    if ← peekLifetime then discard lifetime
    discard <| optWord "mut"
    here
  match ← attempt g.receiver with
  | some ts => return (selfPos.toOption, false, pre ++ ts)
  | none =>
  if (← peekIdent) && (← peek2Op "<") then
    let p ← here
    let t ← g.type
    return (none, false, pre ++ [TokenTree.ident "_" p] ++ opTokens ":" ++ t.tokens)
  let pat ← g.pat
  let colon ← op ":"
  if allowVariadic then
    if let some dots ← opt "..." then
      return (none, true, pre ++ pat.tokens ++ colon ++ dots)
  let t ← g.type
  return (none, false, pre ++ pat.tokens ++ colon ++ t.tokens)

/-- The parameters of a function inside its parentheses, from the given count on: a receiver
may only come first. Answers whether the first is a receiver, how many there are (a variadic
tail not counted), and the printed tokens. -/
def fnArgsFrom (g : Grammar) : Nat → Bool → Nat → TokenStream → Parse (Bool × Nat × TokenStream)
  | 0, r, n, acc => return (r, n, acc)
  | fuel + 1, r, n, acc => do
    if ← atEnd then return (r, n, acc)
    let before ← get
    let attrs ← g.outerAttrs
    if let some dots ← opt "..." then
      let c ← if ← atEnd then pure [] else op ","
      return (r, n, acc ++ attrsTokens attrs ++ dots ++ c)
    set before
    let (selfPos, variadic, ts) ← g.fnArg true
    if variadic then
      let c ← if ← atEnd then pure [] else op ","
      return (r, n, acc ++ ts ++ c)
    match selfPos with
    | some p =>
      if r then failAt p "unexpected second method receiver"
      if n > 0 then failAt p "unexpected method receiver"
    | none => pure ()
    let r' := r || selfPos.isSome
    if ← atEnd then return (r', n + 1, acc ++ ts)
    let c ← op ","
    g.fnArgsFrom fuel r' (n + 1) (acc ++ ts ++ c)

/-- The parameters of a function inside its parentheses. -/
def fnArgs (g : Grammar) : Parse (Bool × Nat × TokenStream) := do
  g.fnArgsFrom ((← remaining).length + 1) false 0 []

/-- A function signature; `none` for a `safe fn` in a foreign block. -/
def signature (g : Grammar) (allowSafe : Bool) : Parse (Option Signature) := do
  let c ← optWord "const"
  let a ← optWord "async"
  let u ← optWord "unsafe"
  let safe := allowSafe && u.isNone && (← peekWord "safe")
  if safe then discard anyIdent
  let abi ← optAbi
  let f ← word "fn"
  let (name, p) ← ident
  let gen ← g.generics
  let (takesSelf, n, args) ← inGroup .paren g.fnArgs
  let (out, outTokens) ← g.returnType true
  let wh ← g.optWhere
  if safe then return none
  return some { ident := name, takesSelf := takesSelf, params := n, output := out,
                tokens := c.getD [] ++ a.getD [] ++ u.getD [] ++ abi ++ f ++
                  [TokenTree.ident name p] ++ gen.paramTokens ++ groupTokens .paren args ++
                  outTokens ++ whereTokens wh }

/-- A function body: braces around inner attributes and statements. -/
def fnBody (g : Grammar) : Parse TokenStream := g.block

/-! ### Structs, enums and unions -/

/-- Fields separated by commas to the end of the group. -/
def fields (one : Parse (Field × TokenStream)) : Parse (List Field × TokenStream) := do
  let parts ← chain do
    if ← atEnd then return none
    let (f, ts) ← one
    if ← atEnd then return some ((f, ts), false)
    let c ← op ","
    return some ((f, ts ++ c), true)
  return (parts.map (·.1), (parts.map (·.2)).flatten)

/-- A named field whose type is an ordinary type. -/
def plainNamedField (g : Grammar) : Parse (Field × TokenStream) := do
  let attrs ← g.outerAttrs
  let vis ← visibility
  let (name, p) ← if ← peekWord "_" then anyIdent else ident
  let colon ← op ":"
  let t ← g.type
  return ({ attrs := attrs, ident := some (name, p), ty := t },
    attrsTokens attrs ++ vis.tokens ++ [TokenTree.ident name p] ++ colon ++ t.tokens)

/-- A named field; a field named `_` may hold an anonymous struct or union. -/
def namedField (g : Grammar) : Parse (Field × TokenStream) := do
  let attrs ← g.outerAttrs
  let vis ← visibility
  let unnamed ← peekWord "_"
  let (name, p) ← if unnamed then anyIdent else ident
  let colon ← op ":"
  let t ← if unnamed && ((← peekWord "struct") ||
        ((← peekWord "union") && (← peek2Group .brace))) then
      let begin ← remaining
      discard anyIdent
      discard <| inGroup .brace (fields g.plainNamedField)
      pure { shape := .other, tokens := ← readSince begin }
    else g.type
  return ({ attrs := attrs, ident := some (name, p), ty := t },
    attrsTokens attrs ++ vis.tokens ++ [TokenTree.ident name p] ++ colon ++ t.tokens)

/-- A positional field. -/
def unnamedField (g : Grammar) : Parse (Field × TokenStream) := do
  let attrs ← g.outerAttrs
  let vis ← visibility
  let t ← g.type
  return ({ attrs := attrs, ident := none, ty := t }, attrsTokens attrs ++ vis.tokens ++ t.tokens)

/-- Named fields in braces. -/
def namedFields (g : Grammar) : Parse (List Field × TokenStream) := do
  let (fs, ts) ← inGroup .brace (fields g.namedField)
  return (fs, groupTokens .brace ts)

/-- Positional fields in parentheses. -/
def unnamedFields (g : Grammar) : Parse (List Field × TokenStream) := do
  let (fs, ts) ← inGroup .paren (fields g.unnamedField)
  return (fs, groupTokens .paren ts)

/-- The body of a struct after its generic parameters: a `where` clause and the fields in
their three forms. -/
def structFields (g : Grammar) :
    Parse (Option WhereClause × Fields × TokenStream × Bool) := do
  let mut wh : Option WhereClause := none
  if ← peekWord "where" then wh := some (← g.whereClause)
  if wh.isNone && (← peekGroup .paren) then
    let (fs, ts) ← g.unnamedFields
    if ← peekWord "where" then
      wh := some (← g.whereClause)
      if ← peekOp ";" then
        discard <| op ";"
        return (wh, .unnamed fs, ts, true)
      expectedOneOf ["`;`"]
    if ← peekOp ";" then
      discard <| op ";"
      return (wh, .unnamed fs, ts, true)
    expectedOneOf ["`where`", "`;`"]
  else if ← peekGroup .brace then
    let (fs, ts) ← g.namedFields
    return (wh, .named fs, ts, false)
  else if ← peekOp ";" then
    discard <| op ";"
    return (wh, .unit, [], true)
  else expectedOneOf (if wh.isSome then ["curly braces", "`;`"]
    else ["`where`", "parentheses", "curly braces", "`;`"])

/-- The printed tokens of a struct. -/
def structTokens (head : TokenStream) (gen : Generics) (wh : Option WhereClause)
    (fs : Fields) (body : TokenStream) : TokenStream :=
  match fs with
  | .named _ => head ++ gen.paramTokens ++ whereTokens wh ++ body
  | .unnamed _ => head ++ gen.paramTokens ++ body ++ whereTokens wh ++ opTokens ";"
  | .unit => head ++ gen.paramTokens ++ whereTokens wh ++ opTokens ";"

/-- A struct after its attributes. -/
def structDecl (g : Grammar) (attrs : List Attribute) : Parse TypeDecl := do
  let vis ← visibility
  let s ← word "struct"
  let (name, p) ← ident
  let gen ← g.generics
  let (wh, fs, body, _) ← g.structFields
  let head := attrsTokens attrs ++ vis.tokens ++ s ++ [TokenTree.ident name p]
  return { kind := .struct, attrs := attrs, ident := name, pos := p,
           generics := { gen with whereClause := wh }, fields := fs,
           tokens := structTokens head gen wh fs body }

/-- One enum variant. -/
def variant (g : Grammar) : Parse TokenStream := do
  let attrs ← g.outerAttrs
  discard visibility
  let (name, p) ← ident
  let body ← if ← peekGroup .brace then pure (← g.namedFields).2
    else if ← peekGroup .paren then pure (← g.unnamedFields).2
    else pure []
  let disc ← if ← peekOp "=" then
      let eq ← op "="
      pure (eq ++ (← g.expr).tokens)
    else pure []
  return attrsTokens attrs ++ [TokenTree.ident name p] ++ body ++ disc

/-- An enum after its attributes. -/
def enumDecl (g : Grammar) (attrs : List Attribute) : Parse TypeDecl := do
  let vis ← visibility
  let e ← word "enum"
  let (name, p) ← ident
  let gen ← g.generics
  let wh ← g.optWhere
  let variants ← inGroup .brace (terminated g.variant)
  return { kind := .enum, attrs := attrs, ident := name, pos := p,
           generics := { gen with whereClause := wh }, fields := .unit,
           tokens := attrsTokens attrs ++ vis.tokens ++ e ++ [TokenTree.ident name p] ++
             gen.paramTokens ++ whereTokens wh ++ groupTokens .brace variants }

/-- A union after its attributes. -/
def unionDecl (g : Grammar) (attrs : List Attribute) : Parse TypeDecl := do
  let vis ← visibility
  let u ← anyIdent
  let (name, p) ← ident
  let gen ← g.generics
  let wh ← g.optWhere
  let (fs, body) ← g.namedFields
  return { kind := .union, attrs := attrs, ident := name, pos := p,
           generics := { gen with whereClause := wh }, fields := .named fs,
           tokens := attrsTokens attrs ++ vis.tokens ++ [TokenTree.ident u.1 u.2] ++
             [TokenTree.ident name p] ++ gen.paramTokens ++ whereTokens wh ++ body }

/-! ### Type aliases -/

/-- The pieces of a type alias in its general form, each as printed. -/
structure TypeAliasParts where
  /-- The visibility. -/
  vis : Vis
  /-- `default`, if written. -/
  defaultness : TokenStream
  /-- `type` and the name. -/
  head : TokenStream
  /-- The generic parameters, with the `where` clause wherever it stood. -/
  generics : Generics
  /-- The colon before the bounds, if written. -/
  colon : Option TokenStream
  /-- The bounds after the colon. -/
  bounds : TokenStream
  /-- `=` and the type, if defined. -/
  definition : Option TokenStream
  /-- The closing semicolon. -/
  semi : TokenStream

/-- Trait bounds up to one of the stopping tokens, the last `+` optional; answers their printed
tokens. -/
def boundsBefore (g : Grammar) (allowConst : Bool) (stop : Parse Bool) : Parse TokenStream := do
  let parts ← chain do
    if ← stop then return none
    let (_, b) ← g.bound false allowConst
    if ← stop then return some (b, false)
    let plus ← op "+"
    return some (b ++ plus, true)
  return parts.flatten

/-- A type alias in its general form: `type Name<..>: Bounds where .. = Type where ..;`, where
the `where` clause may come before the `=` (`before`) or after it (`after`). -/
def flexibleType (g : Grammar) (allowDefault before after : Bool) : Parse TypeAliasParts := do
  let vis ← visibility
  let dflt ← if allowDefault then optWord "default" else pure none
  let t ← word "type"
  let (name, p) ← ident
  let gen ← g.generics
  let colon ← opt ":"
  let stop : Parse Bool := do return (← peekWord "where") || (← peekOp "=") || (← peekOp ";")
  let bounds ← match colon with
    | some _ => g.boundsBefore true stop
    | none => pure []
  let mut wh : Option WhereClause := none
  if before then wh ← g.optWhere
  let definition ← match ← opt "=" with
    | some eq => pure (some (eq ++ (← g.type).tokens))
    | none => pure none
  if after && wh.isNone then wh ← g.optWhere
  let semi ← op ";"
  return { vis, defaultness := dflt.getD [], head := t ++ [TokenTree.ident name p],
           generics := { gen with whereClause := wh }, colon, bounds, definition, semi }

/-- The parameters and `where` clause of a type alias as printed, the clause first. -/
def TypeAliasParts.genericsFirst (t : TypeAliasParts) : TokenStream :=
  t.generics.paramTokens ++ whereTokens t.generics.whereClause

/-- A constant in its general form, `const NAME<..>: Type = value where ..;`; answers its
printed tokens when it has neither generic parameters nor a `where` clause, and has a value
unless `valueOptional`: the only forms the syntax tree has a node for. -/
def constItem (g : Grammar) (valueOptional : Bool) : Parse (Option TokenStream) := do
  let c ← word "const"
  let (name, p) ← if (← peekIdent) || (← peekWord "_") then anyIdent
    else expectedOneOf ["identifier", "`_`"]
  let angled ← peekOp "<"
  discard g.generics
  let colon ← op ":"
  let t ← g.type
  let value ← match ← opt "=" with
    | some eq => pure (some (eq ++ (← g.expr).tokens))
    | none => pure none
  let wh ← g.optWhere
  let semi ← op ";"
  if angled || wh.isSome || (value.isNone && !valueOptional) then return none
  return some (c ++ [TokenTree.ident name p] ++ colon ++ t.tokens ++ value.getD [] ++ semi)

/-- A macro invocation in item position, `path! (..)` with a `;` unless braced. -/
def itemMacroTokens : Parse TokenStream := do
  let begin ← remaining
  discard modPath
  discard <| op "!"
  if ← peekWord "try" then discard anyIdent
  else if ← peekIdent then discard ident
  let (d, _) ← anyGroup
  if d != .brace then discard <| op ";"
  readSince begin

/-! ### Impl blocks and traits -/

/-- Whether an associated item after its visibility and `default` may be a macro invocation. -/
def startsMacroItem (plain : Bool) (ahead : TokenStream) : Bool :=
  plain && (ahead.startsIdent || ahead.startsWord "self" || ahead.startsWord "super" ||
    ahead.startsWord "crate" || ahead.startsOp "::")

/-- An associated item of an impl block; answers the function it is, if it is one with a
body, and its printed tokens. -/
def implItem (g : Grammar) : Parse (Option ImplFn × TokenStream) := do
  let begin ← remaining
  let attrs ← g.outerAttrs
  let pre := attrsTokens attrs
  let (vis, ahead) : Vis × TokenStream ← match ← lookahead (do return (← visibility, ← remaining)) with
    | .ok r => pure r
    | .error e => throw e
  let defaulted := ahead.startsWord "default" && !(TokenStream.skipTree ahead).startsOp "!"
  let ahead' : TokenStream := if defaulted then ahead.drop 1 else ahead
  if ahead'.startsWord "fn" || startsSignature ahead' false then
    let v ← visibility
    let d ← optWord "default"
    let sig ← g.signature false
    if (← opt ";").isSome then return (none, ← readSince begin)
    let body ← g.fnBody
    match sig with
    | some s =>
      return (some { ident := s.ident, vis := v.kind, takesSelf := s.takesSelf,
                     params := s.params, output := s.output },
        pre ++ v.tokens ++ d.getD [] ++ s.tokens ++ body)
    | none => return (none, ← readSince begin)
  else if ahead'.startsWord "const" then
    let v ← visibility
    let d ← optWord "default"
    match ← g.constItem false with
    | some ts => return (none, pre ++ v.tokens ++ d.getD [] ++ ts)
    | none => return (none, ← readSince begin)
  else if ahead'.startsWord "type" then
    let t ← g.flexibleType true false true
    match t.definition with
    | some dfn =>
      if t.colon.isSome then return (none, ← readSince begin)
      return (none, pre ++ t.vis.tokens ++ t.defaultness ++ t.head ++ t.generics.paramTokens ++
        dfn ++ whereTokens t.generics.whereClause ++ t.semi)
    | none => return (none, ← readSince begin)
  else if startsMacroItem (vis.kind == .inherited && !defaulted) ahead' then
    discard modPath
    discard <| op "!"
    let (d, _) ← anyGroup
    if d != .brace then discard <| op ";"
    return (none, pre ++ (← readSince ahead))
  else
    expectedOneOfIn ahead' ((if defaulted then [] else ["`default`"]) ++
      ["`fn`", "`const`", "`type`"] ++
      (if vis.kind == .inherited && !defaulted then
        ["identifier", "`self`", "`super`", "`crate`", "`::`"] else []))

/-- An impl block after its attributes, with its printed tokens (the attributes left out);
`none` when it is kept only as tokens. -/
def implBlock (g : Grammar) : Parse (Option (ImplBlock × TokenStream)) := do
  discard g.outerAttrs
  let vis ← visibility
  let dflt ← optWord "default"
  let uns ← optWord "unsafe"
  let implTok ← word "impl"
  let gen ← if ← genericsFollow then g.generics else pure {}
  let constImpl := (← peekWord "const") || ((← peekOp "?") && (← peek2Word "const"))
  if constImpl then
    discard <| opt "?"
    discard <| word "const"
  let bangPos ← here
  let negative ← if (← peekOp "!") && !(← peek2Group .brace) then
      pure (some (← op "!"))
    else pure none
  let first ← g.type
  let isFor ← peekWord "for"
  if negative.isSome && !isFor then failAt bangPos "inherent impls cannot be negative"
  let (isTrait, selfTy, traitTokens) ← if isFor then
      let forTok ← word "for"
      let traitPath := match first.shape with
        | .path false _ => true
        | _ => false
      let s ← g.type
      pure (traitPath, s, negative.getD [] ++ first.tokens ++ forTok)
    else pure (false, first, [])
  let wh ← g.optWhere
  let (fns, body) ← inGroup .brace do
    let inner ← g.innerAttrs
    let items ← many do
      if ← atEnd then return none
      return some (← g.implItem)
    return (items.filterMap (·.1), attrsTokens inner ++ (items.map (·.2)).flatten)
  if vis.kind != .inherited || constImpl || (isFor && !isTrait) then return none
  return some ({ isTrait := isFor, selfTy := selfTy, fns := fns },
    dflt.getD [] ++ uns.getD [] ++ implTok ++ gen.paramTokens ++ traitTokens ++ selfTy.tokens ++
      whereTokens wh ++ groupTokens .brace body)

/-- An associated item of a trait; answers its printed tokens. -/
def traitItem (g : Grammar) : Parse TokenStream := do
  let begin ← remaining
  let attrs ← g.outerAttrs
  let pre := attrsTokens attrs
  let vis ← visibility
  let dflt ← optWord "default"
  let plain := vis.kind == .inherited && dflt.isNone
  let ahead : TokenStream ← remaining
  let fnItem : Parse TokenStream := do
    let more ← g.outerAttrs
    let sig ← g.signature false
    let body ← if ← peekGroup .brace then g.fnBody
      else if ← peekOp ";" then op ";"
      else expectedOneOf ["curly braces", "`;`"]
    return pre ++ attrsTokens more ++ (sig.map (·.tokens)).getD [] ++ body
  let item : Option TokenStream ← if ahead.startsWord "fn" || startsSignature ahead false then
      some <$> fnItem
    else if ahead.startsWord "const" then
      let after : TokenStream := ahead.drop 1
      if after.startsIdent || after.startsWord "_" then
        match ← g.constItem true with
        | some ts => pure (some (pre ++ ts))
        | none => pure none
      else if after.startsWord "async" || after.startsWord "unsafe" ||
          after.startsWord "extern" || after.startsWord "fn" then some <$> fnItem
      else expectedOneOfIn after ["identifier", "`_`", "`async`", "`unsafe`", "`extern`", "`fn`"]
    else if ahead.startsWord "type" then
      let t ← g.flexibleType false false true
      if t.vis.kind != .inherited then pure none
      else
        let colonBounds := if t.bounds.isEmpty then [] else t.colon.getD [] ++ t.bounds
        pure (some (pre ++ t.head ++ t.generics.paramTokens ++ colonBounds ++
          t.definition.getD [] ++ whereTokens t.generics.whereClause ++ t.semi))
    else if startsMacroItem plain ahead then
      pure (some (pre ++ (← itemMacroTokens)))
    else
      expectedOneOf (["`fn`", "`const`", "`type`"] ++
        (if plain then ["identifier", "`self`", "`super`", "`crate`", "`::`"] else []))
  match item with
  | some ts => if plain then return ts else readSince begin
  | none => readSince begin

/-- The rest of a trait after its generic parameters: supertraits, `where` clause and items;
answers their printed tokens. -/
def traitRest (g : Grammar) : Parse TokenStream := do
  let colon ← opt ":"
  let supertraits ← match colon with
    | some _ => g.boundsBefore true (do return (← peekWord "where") || (← peekGroup .brace))
    | none => pure []
  let wh ← g.optWhere
  let body ← inGroup .brace do
    let inner ← g.innerAttrs
    let items ← many do
      if ← atEnd then return none
      return some (← g.traitItem)
    return attrsTokens inner ++ items.flatten
  -- a colon without supertraits is not printed
  let colonTokens := if supertraits.isEmpty then [] else colon.getD [] ++ supertraits
  return colonTokens ++ whereTokens wh ++ groupTokens .brace body

/-- A trait or trait alias after its attributes; answers its printed tokens, the attributes left
out. Only a trait without `unsafe` or `auto` may be an alias. -/
def traitOrAlias (g : Grammar) : Parse TokenStream := do
  let vis ← visibility
  let uns ← optWord "unsafe"
  let auto ← optWord "auto"
  let t ← word "trait"
  let (name, p) ← ident
  let gen ← g.generics
  let head := vis.tokens ++ uns.getD [] ++ auto.getD [] ++ t ++ [TokenTree.ident name p] ++
    gen.paramTokens
  if uns.isSome || auto.isSome || (← peekGroup .brace) || (← peekOp ":") ||
      (← peekWord "where") then
    return head ++ (← g.traitRest)
  else if ← peekOp "=" then
    let eq ← op "="
    let bounds ← g.boundsBefore false (do return (← peekWord "where") || (← peekOp ";"))
    let wh ← g.optWhere
    let semi ← op ";"
    return head ++ eq ++ bounds ++ whereTokens wh ++ semi
  else expectedOneOf ["curly braces", "`:`", "`where`", "`=`"]

/-! ### Use declarations -/

/-- A `use` tree; `none` for a group in which a path starts with `::`, which is kept only as
tokens. -/
def useTree (allowRoot : Bool) : Nat → Parse (Option UseTree)
  | 0 => failHere "nesting too deep"
  | n + 1 => do
    if (← peekIdent) || (← peekWord "self") || (← peekWord "super") || (← peekWord "crate") ||
        (← peekWord "try") then
      let (s, _) ← anyIdent
      if ← peekOp "::" then
        discard <| op "::"
        match ← useTree false n with
        | some t => return some (.path s t)
        | none => return none
      else if ← peekWord "as" then
        discard <| word "as"
        if ← peekIdent then return some (.rename s (← ident).1)
        else if ← peekWord "_" then return some (.rename s (← anyIdent).1)
        else failHere "expected identifier or underscore"
      else return some (.name s)
    else if ← peekOp "*" then
      discard <| op "*"
      return some .glob
    else if ← peekGroup .brace then
      let (items, rooted) ← inGroup .brace do
        let parts ← chain do
          if ← atEnd then return none
          let rootHere := allowRoot && (← opt "::").isSome
          let t ← useTree (allowRoot && !rootHere) n
          let part := (t, rootHere)
          if ← atEnd then return some (part, false)
          discard <| op ","
          return some (part, true)
        let rooted := parts.any fun (t, r) => r || t.isNone
        return (parts.filterMap (·.1), rooted)
      if rooted then return none
      return some (.group items)
    else expectedOneOf ["identifier", "`self`", "`super`", "`crate`", "`try`", "`*`",
      "curly braces"]

/-- A `use` declaration after its attributes; `none` when it is kept only as tokens. -/
def useDecl : Parse (Option Item) := do
  discard visibility
  discard <| word "use"
  let lead ← opt "::"
  let t ← useTree lead.isNone ((← remaining).length + 64)
  discard <| op ";"
  return t.map (Item.use lead.isSome)

/-! ### Other items -/

/-- An `extern crate` declaration after its attributes. -/
def externCrate : Parse Item := do
  discard visibility
  discard <| word "extern"
  discard <| word "crate"
  let (name, _) ← if ← peekWord "self" then anyIdent else ident
  let rename ← if ← peekWord "as" then
      discard <| word "as"
      if ← peekWord "_" then pure (some (← anyIdent).1) else pure (some (← ident).1)
    else pure none
  discard <| op ";"
  return .externCrate name rename

/-- One item of a foreign block; answers its printed tokens. -/
def foreignItem (g : Grammar) : Parse TokenStream := do
  let begin ← remaining
  let attrs ← g.outerAttrs
  let pre := attrsTokens attrs
  let (vis, ahead) : Vis × TokenStream ← match ← lookahead (do return (← visibility, ← remaining)) with
    | .ok r => pure r
    | .error e => throw e
  if ahead.startsWord "fn" || startsSignature ahead true then
    let v ← visibility
    let sig ← g.signature true
    if ← peekGroup .brace then
      inGroup .brace do
        discard g.innerAttrs
        discard g.stmts
      readSince begin
    else
      let semi ← op ";"
      match sig with
      | some s => return pre ++ v.tokens ++ s.tokens ++ semi
      | none => readSince begin
  else if ahead.startsWord "static" || ((ahead.startsWord "unsafe" || ahead.startsWord "safe") &&
      (TokenStream.skipTree ahead).startsWord "static") then
    let v ← visibility
    let u ← optWord "unsafe"
    let safe := u.isNone && (← peekWord "safe")
    if safe then discard anyIdent
    let st ← word "static"
    let m ← optWord "mut"
    let (name, p) ← ident
    let colon ← op ":"
    let t ← g.type
    let hasValue ← peekOp "="
    if hasValue then
      discard <| op "="
      discard g.expr
    let semi ← op ";"
    if u.isSome || safe || hasValue then readSince begin
    else return pre ++ v.tokens ++ st ++ m.getD [] ++ [TokenTree.ident name p] ++ colon ++
      t.tokens ++ semi
  else if ahead.startsWord "type" then
    let t ← g.flexibleType false true true
    if t.colon.isSome || t.definition.isSome then readSince begin
    else return pre ++ t.vis.tokens ++ t.head ++ t.genericsFirst ++ t.semi
  else if startsMacroItem (vis.kind == .inherited) ahead then
    return pre ++ (← itemMacroTokens)
  else
    expectedOneOfIn ahead (["`fn`", "`static`", "`type`"] ++
      (if vis.kind == .inherited then ["identifier", "`self`", "`super`", "`crate`", "`::`"]
       else []))

/-- A foreign block after its attributes; answers its printed tokens, the attributes left
out. -/
def foreignMod (g : Grammar) : Parse TokenStream := do
  let u ← optWord "unsafe"
  let e ← word "extern"
  let abi ← if ← peekWith (·.startsLitOf .str) then pure (← lit).tokens else pure []
  let body ← inGroup .brace do
    let inner ← g.innerAttrs
    let items ← many do
      if ← atEnd then return none
      return some (← g.foreignItem)
    return attrsTokens inner ++ items.flatten
  return u.getD [] ++ e ++ abi ++ groupTokens .brace body

/-- A module after its attributes; answers its inner attributes and items, if inline, and its
printed tokens, the outer attributes left out. -/
def modDecl (g : Grammar) :
    Parse (String × List Attribute × Option (List Item) × TokenStream) := do
  let v ← visibility
  let u ← optWord "unsafe"
  let m ← word "mod"
  let (name, p) ← if ← peekWord "try" then anyIdent else ident
  let head := v.tokens ++ u.getD [] ++ m ++ [TokenTree.ident name p]
  if ← peekOp ";" then
    let semi ← op ";"
    return (name, [], none, head ++ semi)
  else if ← peekGroup .brace then
    let (inner, items) ← inGroup .brace do
      let inner ← g.innerAttrs
      let items ← many do
        if ← atEnd then return none
        let begin ← remaining
        let attrs ← g.outerAttrs
        return some (← g.itemRest begin attrs)
      return (inner, items)
    return (name, inner, some (items.map (·.1)),
      head ++ groupTokens .brace (attrsTokens inner ++ (items.map (·.2)).flatten))
  else expectedOneOf ["`;`", "curly braces"]

/-- The rest of an item after its outer attributes (`parse_rest_of_item`); answers the item
and its printed tokens. A form the syntax tree has no node for is printed as written. -/
def itemRestPlain (g : Grammar) (begin : TokenStream) (attrs : List Attribute) :
    Parse (Item × TokenStream) := do
  let (vis, ahead) : Vis × TokenStream ← match ← lookahead (do return (← visibility, ← remaining)) with
    | .ok r => pure r
    | .error e => throw e
  let pre := attrsTokens attrs
  let start ← remaining
  -- an item printed as written, attributes included
  let kept : Item → Parse (Item × TokenStream) := fun it => do
    return (it, ← readSince begin)
  -- an item whose attributes are printed, and the rest as written
  let plainRest : Item → Parse (Item × TokenStream) := fun it => do
    return (it, pre ++ (← readSince start))
  let ahead2 := TokenStream.skipTree ahead
  if ahead.startsWord "fn" || startsSignature ahead false then
    let v ← visibility
    let sig ← g.signature false
    if (← opt ";").isSome then kept .other
    else
      let body ← g.fnBody
      return (.other, pre ++ v.tokens ++ ((sig.map (·.tokens)).getD []) ++ body)
  else if ahead.startsWord "extern" then
    if ahead2.startsWord "crate" then plainRest (← externCrate)
    else if ahead2.startsGroup .brace then
      return (.other, pre ++ (← g.foreignMod))
    else if ahead2.startsLitOf .str then
      if (TokenStream.skipTree ahead2).startsGroup .brace then
        return (.other, pre ++ (← g.foreignMod))
      else expectedOneOfIn (TokenStream.skipTree ahead2) ["curly braces"]
    else expectedOneOfIn ahead2 ["`crate`", "curly braces", "string literal"]
  else if ahead.startsWord "use" then
    match ← useDecl with
    | some it => plainRest it
    | none => kept .other
  else if ahead.startsWord "static" then
    let v ← visibility
    let st ← word "static"
    let m ← optWord "mut"
    let (name, p) ← ident
    if ← peekOp "=" then
      discard <| op "="
      discard g.expr
      discard <| op ";"
      kept .other
    else
      let colon ← op ":"
      let t ← g.type
      if ← peekOp ";" then
        discard <| op ";"
        kept .other
      else
        let eq ← op "="
        let e ← g.expr
        let semi ← op ";"
        return (.other, pre ++ v.tokens ++ st ++ m.getD [] ++ [TokenTree.ident name p] ++ colon ++
          t.tokens ++ eq ++ e.tokens ++ semi)
  else if ahead.startsWord "const" then
    let v ← visibility
    match ← g.constItem false with
    | some ts => return (.other, pre ++ v.tokens ++ ts)
    | none => kept .other
  else if ahead.startsWord "unsafe" then
    if ahead2.startsWord "trait" ||
        (ahead2.startsWord "auto" && (TokenStream.skipTree ahead2).startsWord "trait") then
      return (.other, pre ++ (← g.traitOrAlias))
    else if ahead2.startsWord "impl" then
      match ← g.implBlock with
      | some (b, ts) => return (.impl b, pre ++ ts)
      | none => kept .other
    else if ahead2.startsWord "extern" then
      return (.other, pre ++ (← g.foreignMod))
    else if ahead2.startsWord "mod" then
      let (name, inner, content, ts) ← g.modDecl
      return (.mod (attrs ++ inner) name content, pre ++ ts)
    else expectedOneOfIn ahead2 ["`trait`", "`auto`", "`impl`", "`extern`", "`mod`"]
  else if ahead.startsWord "mod" then
    let (name, inner, content, ts) ← g.modDecl
    return (.mod (attrs ++ inner) name content, pre ++ ts)
  else if ahead.startsWord "type" then
    let t ← g.flexibleType false true false
    match t.definition with
    | some dfn =>
      if t.colon.isSome then kept .other
      else return (.other, pre ++ t.vis.tokens ++ t.head ++ t.genericsFirst ++ dfn ++ t.semi)
    | none => kept .other
  else if ahead.startsWord "struct" then
    let d ← g.structDecl attrs
    return (.decl d, d.tokens)
  else if ahead.startsWord "enum" then
    let d ← g.enumDecl attrs
    return (.decl d, d.tokens)
  else if ahead.startsWord "union" && ahead2.startsIdent then
    let d ← g.unionDecl attrs
    return (.decl d, d.tokens)
  else if ahead.startsWord "trait" ||
      (ahead.startsWord "auto" && ahead2.startsWord "trait") then
    return (.other, pre ++ (← g.traitOrAlias))
  else if ahead.startsWord "impl" || (ahead.startsWord "default" && !ahead2.startsOp "!") then
    match ← g.implBlock with
    | some (b, ts) => return (.impl b, pre ++ ts)
    | none => kept .other
  else if ahead.startsWord "macro" then
    discard visibility
    discard <| word "macro"
    discard ident
    let sawParen ← peekGroup .paren
    if sawParen then inGroup .paren (skip (← remaining).length)
    if ← peekGroup .brace then inGroup .brace (skip (← remaining).length)
    else expectedOneOf (if sawParen then ["curly braces"] else ["parentheses", "curly braces"])
    kept .other
  else if startsMacroItem (vis.kind == .inherited) ahead then
    discard itemMacroTokens
    plainRest .other
  else expectedOneOfIn ahead (itemExpectations (vis.kind == .inherited))

end Grammar

end Augment.Rust
