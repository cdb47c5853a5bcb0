import Augment.Rust.Syntax.Cursor

/-!
# Syntax trees

The parts of Rust syntax that the member generator reads, each with the tokens it prints as.
Printing follows the grammar rather than the source: an operator's characters are joint, every
other punctuation character stands alone, and a few forms are normalised (lifetimes print
before the other generic parameters; an empty `where` clause prints as nothing).

Most nodes keep only what a later stage asks about: a type keeps whether it is a path and
which, an expression its kind (the kind decides where a statement needs a semicolon), a
declaration its name, attributes, generic parameters and fields.
-/

namespace Augment.Rust

/-! ### Paths -/

/-- The arguments after a path segment. -/
inductive SegmentArgs where
  | none
  /-- Angle-bracketed arguments, `<T>` or `::<T>`. -/
  | angle
  /-- Parenthesized arguments, `(A, B) -> C`. -/
  | paren
  deriving DecidableEq, Repr, Inhabited

/-- One segment of a path. -/
structure Segment where
  /-- The identifier of the segment. -/
  ident : String
  /-- Where the identifier starts. -/
  pos : Pos
  /-- Which arguments follow it. -/
  args : SegmentArgs := .none
  /-- The printed arguments. -/
  argTokens : TokenStream := []
  deriving Repr, Inhabited

/-- A path: `a::b::C<T>`. -/
structure Path where
  /-- Whether the path starts with `::`. -/
  leadingColon : Bool := false
  /-- The segments, never empty. -/
  segments : List Segment
  deriving Repr, Inhabited

namespace Path

/-- A path of one identifier. -/
def ofIdent (s : String) (p : Pos) : Path := { segments := [{ ident := s, pos := p }] }

/-- The printed tokens of the path. -/
def tokens (p : Path) : TokenStream :=
  (if p.leadingColon then opTokens "::" else []) ++
    joinTokens (opTokens "::") (p.segments.map fun s => [.ident s.ident s.pos] ++ s.argTokens)

/-- Whether no segment has arguments. -/
def isModStyle (p : Path) : Bool := p.segments.all (·.args == .none)

/-- The identifier of a path that is a single bare identifier. -/
def getIdent (p : Path) : Option String :=
  match p.leadingColon, p.segments with
  | false, [s] => if s.args == .none then some s.ident else none
  | _, _ => none

/-- Whether the path is the bare identifier `name`. -/
def isIdent (p : Path) (name : String) : Bool := p.getIdent == some name

/-- The identifiers of the segments. -/
def idents (p : Path) : List String := p.segments.map (·.ident)

/-- The identifier of the last segment. -/
def lastIdent (p : Path) : Option String := (p.segments.getLast?).map (·.ident)

/-- Where the path starts. -/
def pos (p : Path) : Pos := match p.segments with
  | s :: _ => s.pos
  | [] => {}

end Path

/-! ### Types -/

/-- The shape of a type, as far as later stages look at it. -/
inductive TyShape where
  /-- A path type; `qself` when it starts with `<T as Trait>`. -/
  | path (qself : Bool) (path : Path)
  /-- Trait bounds joined by `+`, with or without `dyn`. -/
  | traitObject (dyn : Bool) (bounds : Nat) (trailingPlus : Bool)
  /-- A type in parentheses. -/
  | paren
  | other
  deriving Repr, Inhabited

/-- A type and its printed tokens. -/
structure Ty where
  /-- The shape of the type. -/
  shape : TyShape
  /-- The printed tokens. -/
  tokens : TokenStream
  deriving Repr, Inhabited

/-- The path of a type that is a plain path (no `<T as Trait>` prefix). -/
def Ty.plainPath? (t : Ty) : Option Path :=
  match t.shape with
  | .path false p => some p
  | _ => none

/-! ### Expressions -/

/-- The binding strength of operators, from loosest to tightest. -/
inductive Prec where
  | jump
  | assign
  | range
  | or
  | and
  | letChain
  | compare
  | bitOr
  | bitXor
  | bitAnd
  | shift
  | sum
  | product
  | cast
  | unaryOp
  | unambiguous
  deriving DecidableEq, Repr, Inhabited

/-- The rank of a binding strength. -/
def Prec.rank : Prec → Nat
  | .jump => 0 | .assign => 1 | .range => 2 | .or => 3 | .and => 4 | .letChain => 5
  | .compare => 6 | .bitOr => 7 | .bitXor => 8 | .bitAnd => 9 | .shift => 10 | .sum => 11
  | .product => 12 | .cast => 13 | .unaryOp => 14 | .unambiguous => 15

/-- The kinds of expression. -/
inductive ExprKind where
  | array | assign | async | await
  | binary (prec : Prec)
  | block | breakExpr | call | cast | closure | constBlock | continueExpr | field | forLoop
  | ifExpr | index | infer | letExpr
  | lit (lit : Lit)
  | loopExpr
  | macroCall (delim : Delimiter)
  | matchExpr | methodCall | paren | path | range | rawAddr | reference | repeatExpr
  | returnExpr | struct | tryExpr | tryBlock | tuple | unary | unsafeBlock | verbatim
  | whileLoop | yieldExpr
  deriving Repr, Inhabited

namespace ExprKind

/-- The name of an expression kind in attribute-argument error messages. -/
def name : ExprKind → String
  | .array => "array" | .assign => "assign" | .async => "async" | .await => "await"
  | .binary _ => "binary" | .block => "block" | .breakExpr => "break" | .call => "call"
  | .cast => "cast" | .closure => "closure" | .constBlock => "const"
  | .continueExpr => "continue" | .field => "field" | .forLoop => "for_loop" | .ifExpr => "if"
  | .index => "index" | .infer => "infer" | .letExpr => "let" | .lit _ => "lit"
  | .loopExpr => "loop" | .macroCall _ => "macro" | .matchExpr => "match"
  | .methodCall => "method_call" | .paren => "paren" | .path => "path" | .range => "range"
  | .rawAddr => "raw_addr" | .reference => "reference" | .repeatExpr => "repeat"
  | .returnExpr => "return" | .struct => "struct" | .tryExpr => "try"
  | .tryBlock => "try_block" | .tuple => "tuple" | .unary => "unary"
  | .unsafeBlock => "unsafe" | .verbatim => "verbatim" | .whileLoop => "while"
  | .yieldExpr => "yield"

/-- Whether the expression ends in a block, so that it can stand as a statement without a
semicolon and as a match arm without a comma. -/
def isBlockLike : ExprKind → Bool
  | .ifExpr | .matchExpr | .block | .unsafeBlock | .whileLoop | .loopExpr | .forLoop
  | .tryBlock | .constBlock => true
  | _ => false

/-- Whether a match arm with this body needs a comma before the next arm. -/
def requiresComma (k : ExprKind) : Bool := !k.isBlockLike

/-- Whether a statement of this expression needs a semicolon before the next statement. -/
def requiresSemi : ExprKind → Bool
  | .macroCall d => d != .brace
  | k => k.requiresComma

/-- Whether the expression is a range. -/
def isRange : ExprKind → Bool
  | .range => true
  | _ => false

end ExprKind

/-- An expression and its printed tokens. -/
structure Expr where
  /-- The kind of the expression. -/
  kind : ExprKind
  /-- The printed tokens. -/
  tokens : TokenStream
  deriving Repr, Inhabited

/-- Whether the expression ends in a brace group of its own, as a block, a struct literal, a
closure with a block body or a macro invoked with braces does; after such an expression, `else`
cannot start the diverging block of a `let`. A cast never does, since its type ends it. -/
def Expr.endsInBrace (e : Expr) : Bool :=
  match e.kind, e.tokens.getLast? with
  | .cast, _ => false
  | _, some (.group .brace _ _ _) => true
  | _, _ => false

/-! ### Patterns -/

/-- The shape of a pattern, as far as the grammar looks at it. -/
inductive PatShape where
  /-- The rest pattern `..`. -/
  | rest
  /-- A range pattern, with or without each end, and where its `..` or `..=` stands. -/
  | range (hasStart hasEnd : Bool) (limitsAt : Pos)
  /-- Any other pattern. -/
  | other
  deriving Repr, Inhabited

/-- A pattern and its printed tokens. -/
structure Pat where
  /-- The shape of the pattern. -/
  shape : PatShape
  /-- The printed tokens. -/
  tokens : TokenStream
  deriving Repr, Inhabited

/-! ### Attributes -/

/-- Whether an attribute applies to the item after it (`#[..]`) or around it (`#![..]`). -/
inductive AttrStyle where
  | outer
  | inner
  deriving DecidableEq, Repr, Inhabited

/-- The contents of an attribute. -/
inductive Meta where
  /-- A bare path: `#[test]`. -/
  | bare (path : Path)
  /-- A path with delimited tokens: `#[derive(Debug)]`. -/
  | list (path : Path) (delim : Delimiter) (tokens : TokenStream) (closePos : Pos)
  /-- A path with a value: `#[path = "a.rs"]`. -/
  | nameValue (path : Path) (value : Expr)
  deriving Repr, Inhabited

namespace Meta

/-- The path of the attribute. -/
def path : Meta → Path
  | .bare p | .list p _ _ _ | .nameValue p _ => p

/-- The printed tokens. -/
def tokens : Meta → TokenStream
  | .bare p => p.tokens
  | .list p d ts _ => p.tokens ++ groupTokens d ts
  | .nameValue p v => p.tokens ++ opTokens "=" ++ v.tokens

end Meta

/-- An attribute. -/
structure Attribute where
  /-- Outer or inner. -/
  style : AttrStyle
  /-- Its contents. -/
  content : Meta
  deriving Repr, Inhabited

/-- One element of an option list inside an attribute: a literal or attribute contents. -/
inductive NestedMeta where
  /-- A literal. -/
  | lit (l : Lit)
  /-- Attribute contents. -/
  | contents (m : Meta)
  deriving Repr, Inhabited

/-- The printed tokens of an attribute. -/
def Attribute.tokens (a : Attribute) : TokenStream :=
  opTokens "#" ++ (if a.style == .inner then opTokens "!" else []) ++
    groupTokens .bracket a.content.tokens

/-- The printed tokens of attributes. -/
def attrsTokens (attrs : List Attribute) : TokenStream := attrs.flatMap Attribute.tokens

/-! ### Visibility and generics -/

/-- How far a declaration is visible. -/
inductive VisKind where
  | inherited
  | pub
  | restricted
  deriving DecidableEq, Repr, Inhabited

/-- A visibility and its printed tokens. -/
structure Vis where
  /-- The kind of visibility. -/
  kind : VisKind
  /-- The printed tokens. -/
  tokens : TokenStream
  deriving Repr, Inhabited

/-- The visibility of a declaration without `pub`. -/
def Vis.inherited : Vis := { kind := .inherited, tokens := [] }

/-- A generic parameter: whether it is a lifetime, its tokens, and whether a comma follows. -/
structure GenericParam where
  /-- Whether the parameter is a lifetime. -/
  isLifetime : Bool
  /-- The printed parameter with its attributes. -/
  tokens : TokenStream
  /-- Whether a comma follows it. -/
  comma : Bool
  deriving Repr, Inhabited

/-- A `where` clause: how many predicates it has and its printed tokens. -/
structure WhereClause where
  /-- The number of predicates. -/
  predicates : Nat
  /-- The printed clause. -/
  tokens : TokenStream
  deriving Repr, Inhabited

/-- The printed tokens of an optional `where` clause: nothing when it has no predicates. -/
def whereTokens : Option WhereClause → TokenStream
  | some w => if w.predicates == 0 then [] else w.tokens
  | none => []

/-- Generic parameters and an optional `where` clause. -/
structure Generics where
  /-- The parameters, in written order. -/
  params : List GenericParam := []
  /-- Whether angle brackets were written. -/
  angled : Bool := false
  /-- The `where` clause. -/
  whereClause : Option WhereClause := none
  deriving Repr, Inhabited

/-- Generic parameters or arguments printed lifetimes first, then the others, each with the comma
written after it, and a comma put in where the last lifetime had none. -/
def lifetimesFirst (params : List GenericParam) : TokenStream :=
  let lifetimes := params.filter (·.isLifetime)
  let others := params.filter (!·.isLifetime)
  let piece (q : GenericParam) := q.tokens ++ (if q.comma then opTokens "," else [])
  let trailing := match lifetimes.getLast? with
    | some q => q.comma
    | none => true
  let bridge := if !trailing && !others.isEmpty then opTokens "," else []
  lifetimes.flatMap piece ++ bridge ++ others.flatMap piece

/-- The printed parameters in angle brackets, lifetimes first; nothing when there are no
parameters. -/
def Generics.paramTokens (g : Generics) : TokenStream :=
  if g.params.isEmpty then []
  else opTokens "<" ++ lifetimesFirst g.params ++ opTokens ">"

/-! ### Fields and declarations -/

/-- A field of a struct, union or enum variant. -/
structure Field where
  /-- The attributes on the field. -/
  attrs : List Attribute
  /-- The field's name and where it starts; `none` for a positional field. -/
  ident : Option (String × Pos)
  /-- The field's type. -/
  ty : Ty
  deriving Repr, Inhabited

/-- The fields of a struct. -/
inductive Fields where
  | named (fields : List Field)
  | unnamed (fields : List Field)
  | unit
  deriving Repr, Inhabited

/-- The fields in order. -/
def Fields.toList : Fields → List Field
  | .named fs | .unnamed fs => fs
  | .unit => []

/-- The kinds of type declaration. -/
inductive DeclKind where
  | struct
  | enum
  | union
  deriving DecidableEq, Repr, Inhabited

/-- A struct, enum or union declaration. -/
structure TypeDecl where
  /-- Which kind of declaration. -/
  kind : DeclKind
  /-- The outer attributes. -/
  attrs : List Attribute
  /-- The declared name. -/
  ident : String
  /-- Where the name starts. -/
  pos : Pos
  /-- The generic parameters. -/
  generics : Generics
  /-- The fields of a struct or union; `unit` for an enum. -/
  fields : Fields
  /-- The printed declaration. -/
  tokens : TokenStream
  deriving Repr, Inhabited

/-! ### Items -/

/-- An associated function in an inherent or trait impl. -/
structure ImplFn where
  /-- The function's name. -/
  ident : String
  /-- Its visibility. -/
  vis : VisKind
  /-- Whether its first parameter is `self`. -/
  takesSelf : Bool
  /-- The number of parameters, `self` included. -/
  params : Nat
  /-- The declared return type. -/
  output : Option Ty
  deriving Repr, Inhabited

/-- An impl block. -/
structure ImplBlock where
  /-- Whether it implements a trait. -/
  isTrait : Bool
  /-- The type it is for. -/
  selfTy : Ty
  /-- Its associated functions with bodies. -/
  fns : List ImplFn
  deriving Repr, Inhabited

/-- The tree of a `use` declaration. -/
inductive UseTree where
  | path (ident : String) (tree : UseTree)
  | name (ident : String)
  | rename (ident : String) (rename : String)
  | glob
  | group (items : List UseTree)
  deriving Repr, Inhabited

/-- A module-level item. -/
inductive Item where
  /-- A struct, enum or union. -/
  | decl (d : TypeDecl)
  /-- An impl block. -/
  | impl (b : ImplBlock)
  /-- A `use` declaration. -/
  | use (leadingColon : Bool) (tree : UseTree)
  /-- An `extern crate` declaration. -/
  | externCrate (ident : String) (rename : Option String)
  /-- A module, inline (with its items) or in another file. -/
  | mod (attrs : List Attribute) (ident : String) (content : Option (List Item))
  /-- Anything else. -/
  | other
  deriving Repr, Inhabited

end Augment.Rust
