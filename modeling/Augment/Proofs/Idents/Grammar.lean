import Mathlib
import Augment.Proofs.Idents.Cursor
import Augment.Rust.Syntax.Generics

/-!
# The grammar keeps the identifiers of the input

The category parsers of a `Grammar` call each other through the record, so what they keep is
stated of the record: `Grammar.Keeps g` says that every category parser of `g` keeps its cursor
good for `P`, and that an item it reads declares only names satisfying `P` (`Item.NamedBy`).
Every parser that takes the record then keeps its cursor good whenever the record does; this
module proves so for paths, attributes, blocks, types and generic parameters, each by `mvcgen`
over the specifications of the parsers it calls.
-/

namespace Augment.Rust

open Std.Do Parse

set_option mvcgen.warning false

/-! ### The names an item declares -/

/-- The names of a type declaration satisfy `P`: the type's own name, which is also no keyword,
and the name of each named field. -/
structure TypeDecl.NamedBy (P : String → Prop) (d : TypeDecl) : Prop where
  ident : P d.ident ∧ acceptsAsIdent d.ident = true
  fields : ∀ f ∈ d.fields.toList, ∀ n p, f.ident = some (n, p) → P n

/-- The names an item declares satisfy `P`: a type's names, the names of an impl block's
functions (no keywords), and the names declared by the items of an inline module. -/
inductive Item.NamedBy (P : String → Prop) : Item → Prop
  | decl {d : TypeDecl} : d.NamedBy P → Item.NamedBy P (.decl d)
  | impl {b : ImplBlock} : (∀ f ∈ b.fns, P f.ident ∧ acceptsAsIdent f.ident = true) →
      Item.NamedBy P (.impl b)
  | use (leadingColon : Bool) (tree : UseTree) : Item.NamedBy P (.use leadingColon tree)
  | externCrate (ident : String) (rename : Option String) :
      Item.NamedBy P (.externCrate ident rename)
  | mod (attrs : List Attribute) (ident : String) {content : Option (List Item)} :
      (∀ items, content = some items → ∀ i ∈ items, Item.NamedBy P i) →
      Item.NamedBy P (.mod attrs ident content)
  | other : Item.NamedBy P .other

/-! ### Grammars that keep the identifiers -/

/-- Every category parser of the grammar keeps its cursor good for `P`, and an item it reads
declares only names satisfying `P`. -/
structure Grammar.Keeps (g : Grammar) : Prop where
  ty : ∀ allowPlus, ⦃fun c => ⌜c.Good⌝⦄ g.ty allowPlus ⦃⇓? _ c => ⌜c.Good⌝⦄
  angleArgs : ⦃fun c => ⌜c.Good⌝⦄ g.angleArgs ⦃⇓? _ c => ⌜c.Good⌝⦄
  unary : ∀ allowStruct, ⦃fun c => ⌜c.Good⌝⦄ g.unary allowStruct ⦃⇓? _ c => ⌜c.Good⌝⦄
  exprFrom : ∀ lhs allowStruct prec,
    ⦃fun c => ⌜c.Good⌝⦄ g.exprFrom lhs allowStruct prec ⦃⇓? _ c => ⌜c.Good⌝⦄
  stmtExpr : ⦃fun c => ⌜c.Good⌝⦄ g.stmtExpr ⦃⇓? _ c => ⌜c.Good⌝⦄
  pat : ⦃fun c => ⌜c.Good⌝⦄ g.pat ⦃⇓? _ c => ⌜c.Good⌝⦄
  genericParam : ⦃fun c => ⌜c.Good⌝⦄ g.genericParam ⦃⇓? _ c => ⌜c.Good⌝⦄
  stmts : ⦃fun c => ⌜c.Good⌝⦄ g.stmts ⦃⇓? _ c => ⌜c.Good⌝⦄
  itemRest : ∀ begin attrs, ⦃fun c => ⌜c.Good⌝⦄ g.itemRest begin attrs
    ⦃⇓? r => ⌜r.1.NamedBy AsciiIdent⌝ ∧ fun c => ⌜c.Good⌝⦄

namespace Grammar

variable {g : Grammar}

namespace Keeps

@[spec] theorem ty_spec (hg : g.Keeps) (allowPlus : Bool) :
    ⦃fun c => ⌜c.Good⌝⦄ g.ty allowPlus ⦃⇓? _ c => ⌜c.Good⌝⦄ :=
  hg.ty allowPlus

@[spec] theorem angleArgs_spec (hg : g.Keeps) :
    ⦃fun c => ⌜c.Good⌝⦄ g.angleArgs ⦃⇓? _ c => ⌜c.Good⌝⦄ :=
  hg.angleArgs

@[spec] theorem unary_spec (hg : g.Keeps) (allowStruct : Bool) :
    ⦃fun c => ⌜c.Good⌝⦄ g.unary allowStruct ⦃⇓? _ c => ⌜c.Good⌝⦄ :=
  hg.unary allowStruct

@[spec] theorem exprFrom_spec (hg : g.Keeps) (lhs : Expr) (allowStruct : Bool) (prec : Prec) :
    ⦃fun c => ⌜c.Good⌝⦄ g.exprFrom lhs allowStruct prec ⦃⇓? _ c => ⌜c.Good⌝⦄ :=
  hg.exprFrom lhs allowStruct prec

@[spec] theorem stmtExpr_spec (hg : g.Keeps) :
    ⦃fun c => ⌜c.Good⌝⦄ g.stmtExpr ⦃⇓? _ c => ⌜c.Good⌝⦄ :=
  hg.stmtExpr

@[spec] theorem pat_spec (hg : g.Keeps) : ⦃fun c => ⌜c.Good⌝⦄ g.pat ⦃⇓? _ c => ⌜c.Good⌝⦄ :=
  hg.pat

@[spec] theorem genericParam_spec (hg : g.Keeps) :
    ⦃fun c => ⌜c.Good⌝⦄ g.genericParam ⦃⇓? _ c => ⌜c.Good⌝⦄ :=
  hg.genericParam

@[spec] theorem stmts_spec (hg : g.Keeps) :
    ⦃fun c => ⌜c.Good⌝⦄ g.stmts ⦃⇓? _ c => ⌜c.Good⌝⦄ :=
  hg.stmts

theorem itemRest_spec_of (hg : g.Keeps) (begin : TokenStream) (attrs : List Attribute) :
    ⦃fun c => ⌜c.Good⌝⦄ g.itemRest begin attrs ⦃⇓? r => ⌜r.1.NamedBy AsciiIdent⌝ ∧
      fun c => ⌜c.Good⌝⦄ :=
  hg.itemRest begin attrs

@[spec] theorem itemRest_spec (hg : g.Keeps) (begin : TokenStream) (attrs : List Attribute) :
    ⦃fun c => ⌜c.Good⌝⦄ g.itemRest begin attrs ⦃⇓? _ c => ⌜c.Good⌝⦄ :=
  good_of_triple_of (hg.itemRest begin attrs)

end Keeps

/-! ### Expressions and types through the record -/

@[spec] theorem expr_spec (hg : g.Keeps) :
    ⦃fun c => ⌜c.Good⌝⦄ g.expr ⦃⇓? _ c => ⌜c.Good⌝⦄ := by
  mvcgen [Grammar.expr] with grind

@[spec] theorem exprNoStruct_spec (hg : g.Keeps) :
    ⦃fun c => ⌜c.Good⌝⦄ g.exprNoStruct ⦃⇓? _ c => ⌜c.Good⌝⦄ := by
  mvcgen [Grammar.exprNoStruct] with grind

@[spec] theorem type_spec (hg : g.Keeps) :
    ⦃fun c => ⌜c.Good⌝⦄ g.type ⦃⇓? _ c => ⌜c.Good⌝⦄ := by
  mvcgen [Grammar.type] with grind

end Grammar

/-! ### Paths of plain identifiers -/

@[spec] theorem peekModSegment_spec :
    ⦃fun c => ⌜c.Good⌝⦄ peekModSegment ⦃⇓? _ c => ⌜c.Good⌝⦄ := by
  mvcgen [peekModSegment]

@[spec] theorem modSegments_spec (n : Nat) (acc : List Segment) (trailing : Bool) :
    ⦃fun c => ⌜c.Good⌝⦄ modSegments n acc trailing ⦃⇓? _ c => ⌜c.Good⌝⦄ := by
  -- on the segments left to read
  induction n generalizing acc trailing with
  | zero => mvcgen [modSegments]
  | succ n ih => (mvcgen [modSegments, ih] with grind)

@[spec] theorem modPath_spec : ⦃fun c => ⌜c.Good⌝⦄ modPath ⦃⇓? _ c => ⌜c.Good⌝⦄ := by
  mvcgen [modPath] with grind

@[spec] theorem metaSegments_spec (n : Nat) (acc : List Segment) :
    ⦃fun c => ⌜c.Good⌝⦄ metaSegments n acc ⦃⇓? _ c => ⌜c.Good⌝⦄ := by
  induction n generalizing acc with
  | zero => mvcgen [metaSegments]
  | succ n ih => (mvcgen [metaSegments, ih] with grind)

@[spec] theorem metaPath_spec : ⦃fun c => ⌜c.Good⌝⦄ metaPath ⦃⇓? _ c => ⌜c.Good⌝⦄ := by
  mvcgen [metaPath] with grind

@[spec] theorem outermostMetaPath_spec :
    ⦃fun c => ⌜c.Good⌝⦄ outermostMetaPath ⦃⇓? _ c => ⌜c.Good⌝⦄ := by
  mvcgen [outermostMetaPath]

namespace Grammar

variable {g : Grammar}

/-! ### Attributes and blocks -/

@[spec] theorem metaAfterPath_spec (hg : g.Keeps) (path : Path) :
    ⦃fun c => ⌜c.Good⌝⦄ g.metaAfterPath path ⦃⇓? _ c => ⌜c.Good⌝⦄ := by
  mvcgen [Grammar.metaAfterPath] with grind [Cursor.Good, Cursor.Good.tail, TokenStream.identsAll_nil]

@[spec] theorem metaItem_spec (hg : g.Keeps) :
    ⦃fun c => ⌜c.Good⌝⦄ g.metaItem ⦃⇓? _ c => ⌜c.Good⌝⦄ := by
  mvcgen [Grammar.metaItem] with grind

@[spec] theorem nestedMetaItem_spec (hg : g.Keeps) :
    ⦃fun c => ⌜c.Good⌝⦄ g.nestedMetaItem ⦃⇓? _ c => ⌜c.Good⌝⦄ := by
  mvcgen [Grammar.nestedMetaItem] with grind

@[spec] theorem outerAttr_spec : ⦃fun c => ⌜c.Good⌝⦄ g.outerAttr ⦃⇓? _ c => ⌜c.Good⌝⦄ := by
  mvcgen [Grammar.outerAttr]

@[spec] theorem innerAttr_spec : ⦃fun c => ⌜c.Good⌝⦄ g.innerAttr ⦃⇓? _ c => ⌜c.Good⌝⦄ := by
  mvcgen [Grammar.innerAttr]

@[spec] theorem outerAttrs_spec : ⦃fun c => ⌜c.Good⌝⦄ g.outerAttrs ⦃⇓? _ c => ⌜c.Good⌝⦄ := by
  mvcgen [Grammar.outerAttrs]

@[spec] theorem innerAttrs_spec : ⦃fun c => ⌜c.Good⌝⦄ g.innerAttrs ⦃⇓? _ c => ⌜c.Good⌝⦄ := by
  mvcgen [Grammar.innerAttrs]

@[spec] theorem block_spec : ⦃fun c => ⌜c.Good⌝⦄ g.block ⦃⇓? _ c => ⌜c.Good⌝⦄ := by
  mvcgen [Grammar.block]

@[spec] theorem plainBlock_spec : ⦃fun c => ⌜c.Good⌝⦄ g.plainBlock ⦃⇓? _ c => ⌜c.Good⌝⦄ := by
  mvcgen [Grammar.plainBlock]

@[spec] theorem label_spec : ⦃fun c => ⌜c.Good⌝⦄ label ⦃⇓? _ c => ⌜c.Good⌝⦄ := by
  mvcgen [Grammar.label]

@[spec] theorem blockExpr_spec :
    ⦃fun c => ⌜c.Good⌝⦄ g.blockExpr ⦃⇓? _ c => ⌜c.Good⌝⦄ := by
  mvcgen [Grammar.blockExpr]

/-! ### Paths -/

@[spec] theorem segment_spec (hg : g.Keeps) (exprStyle : Bool) :
    ⦃fun c => ⌜c.Good⌝⦄ g.segment exprStyle ⦃⇓? _ c => ⌜c.Good⌝⦄ := by
  mvcgen [Grammar.segment] with grind

@[spec] theorem segmentsAfter_spec (hg : g.Keeps) (exprStyle : Bool) (n : Nat)
    (acc : List Segment) :
    ⦃fun c => ⌜c.Good⌝⦄ g.segmentsAfter exprStyle n acc ⦃⇓? _ c => ⌜c.Good⌝⦄ := by
  induction n generalizing acc with
  | zero => mvcgen [Grammar.segmentsAfter]
  | succ n ih => mvcgen [Grammar.segmentsAfter, ih]

@[spec] theorem pathWith_spec (hg : g.Keeps) (exprStyle : Bool) :
    ⦃fun c => ⌜c.Good⌝⦄ g.pathWith exprStyle ⦃⇓? _ c => ⌜c.Good⌝⦄ := by
  mvcgen [Grammar.pathWith]

@[spec] theorem path_spec (hg : g.Keeps) :
    ⦃fun c => ⌜c.Good⌝⦄ g.path ⦃⇓? _ c => ⌜c.Good⌝⦄ := by
  mvcgen [Grammar.path] with grind

@[spec] theorem segmentChain_spec (hg : g.Keeps) (exprStyle : Bool) (n : Nat)
    (acc : List Segment) :
    ⦃fun c => ⌜c.Good⌝⦄ g.segmentChain exprStyle n acc ⦃⇓? _ c => ⌜c.Good⌝⦄ := by
  induction n generalizing acc with
  | zero => mvcgen [Grammar.segmentChain]
  | succ n ih => mvcgen [Grammar.segmentChain, ih]

@[spec] theorem qpath_spec (hg : g.Keeps) (exprStyle : Bool) :
    ⦃fun c => ⌜c.Good⌝⦄ g.qpath exprStyle ⦃⇓? _ c => ⌜c.Good⌝⦄ := by
  mvcgen [Grammar.qpath]

/-! ### Types -/

@[spec] theorem boundLifetimes_spec (hg : g.Keeps) :
    ⦃fun c => ⌜c.Good⌝⦄ g.boundLifetimes ⦃⇓? _ c => ⌜c.Good⌝⦄ := by
  mvcgen [Grammar.boundLifetimes]

@[spec] theorem optBoundLifetimes_spec (hg : g.Keeps) :
    ⦃fun c => ⌜c.Good⌝⦄ g.optBoundLifetimes ⦃⇓? _ c => ⌜c.Good⌝⦄ := by
  mvcgen [Grammar.optBoundLifetimes] with grind

@[spec] theorem optAbi_spec :
    ⦃fun c => ⌜c.Good⌝⦄ optAbi ⦃⇓? _ c => ⌜c.Good⌝⦄ := by
  mvcgen [Grammar.optAbi]

@[spec] theorem returnType_spec (hg : g.Keeps) (allowPlus : Bool) :
    ⦃fun c => ⌜c.Good⌝⦄ g.returnType allowPlus ⦃⇓? _ c => ⌜c.Good⌝⦄ := by
  mvcgen [Grammar.returnType]

@[spec] theorem terminated_spec {item : Parse TokenStream}
    (h : ⦃fun c => ⌜c.Good⌝⦄ item ⦃⇓? _ c => ⌜c.Good⌝⦄) :
    ⦃fun c => ⌜c.Good⌝⦄ terminated item ⦃⇓? _ c => ⌜c.Good⌝⦄ := by
  mvcgen [Grammar.terminated, h]

@[spec] theorem parenArgs_spec (hg : g.Keeps) :
    ⦃fun c => ⌜c.Good⌝⦄ g.parenArgs ⦃⇓? _ c => ⌜c.Good⌝⦄ := by
  mvcgen [Grammar.parenArgs]

@[spec] theorem traitBound_spec (hg : g.Keeps) (allowConst : Bool) :
    ⦃fun c => ⌜c.Good⌝⦄ g.traitBound allowConst ⦃⇓? _ c => ⌜c.Good⌝⦄ := by
  mvcgen [Grammar.traitBound]

@[spec] theorem preciseCapture_spec :
    ⦃fun c => ⌜c.Good⌝⦄ preciseCapture ⦃⇓? _ c => ⌜c.Good⌝⦄ := by
  mvcgen [Grammar.preciseCapture] with grind

@[spec] theorem bound_spec (hg : g.Keeps) (allowCapture allowConst : Bool) :
    ⦃fun c => ⌜c.Good⌝⦄ g.bound allowCapture allowConst ⦃⇓? _ c => ⌜c.Good⌝⦄ := by
  mvcgen [Grammar.bound]

@[spec] theorem peekBoundStart_spec (allowConst : Bool) :
    ⦃fun c => ⌜c.Good⌝⦄ peekBoundStart allowConst ⦃⇓? _ c => ⌜c.Good⌝⦄ := by
  mvcgen [Grammar.peekBoundStart]

@[spec] theorem bounds_spec (hg : g.Keeps) (allowPlus allowCapture allowConst : Bool) :
    ⦃fun c => ⌜c.Good⌝⦄ g.bounds allowPlus allowCapture allowConst ⦃⇓? _ c => ⌜c.Good⌝⦄ := by
  mvcgen [Grammar.bounds]

@[spec] theorem plusBounds_spec (hg : g.Keeps) :
    ⦃fun c => ⌜c.Good⌝⦄ g.plusBounds ⦃⇓? _ c => ⌜c.Good⌝⦄ := by
  mvcgen [Grammar.plusBounds]

@[spec] theorem objectBounds_spec (hg : g.Keeps) (dynPos : Pos) (allowPlus : Bool) :
    ⦃fun c => ⌜c.Good⌝⦄ g.objectBounds dynPos allowPlus ⦃⇓? _ c => ⌜c.Good⌝⦄ := by
  mvcgen [Grammar.objectBounds]

@[spec] theorem typePath_spec (hg : g.Keeps) :
    ⦃fun c => ⌜c.Good⌝⦄ g.typePath ⦃⇓? _ c => ⌜c.Good⌝⦄ := by
  mvcgen [Grammar.typePath] with grind

@[spec] theorem bareFnArg_spec (hg : g.Keeps) (allowSelf : Bool) :
    ⦃fun c => ⌜c.Good⌝⦄ g.bareFnArg allowSelf ⦃⇓? _ c => ⌜c.Good⌝⦄ := by
  mvcgen [Grammar.bareFnArg] with grind

@[spec] theorem bareVariadic_spec :
    ⦃fun c => ⌜c.Good⌝⦄ bareVariadic ⦃⇓? _ c => ⌜c.Good⌝⦄ := by
  mvcgen [Grammar.bareVariadic] with grind

@[spec] theorem bareFn_spec (hg : g.Keeps) (lifetimes : TokenStream) :
    ⦃fun c => ⌜c.Good⌝⦄ g.bareFn lifetimes ⦃⇓? _ c => ⌜c.Good⌝⦄ := by
  mvcgen [Grammar.bareFn]

@[spec] theorem tupleRest_spec (hg : g.Keeps) :
    ⦃fun c => ⌜c.Good⌝⦄ g.tupleRest ⦃⇓? _ c => ⌜c.Good⌝⦄ := by
  mvcgen [Grammar.tupleRest]

@[spec] theorem parenTy_spec (hg : g.Keeps) (allowPlus : Bool) :
    ⦃fun c => ⌜c.Good⌝⦄ g.parenTy allowPlus ⦃⇓? _ c => ⌜c.Good⌝⦄ := by
  mvcgen [Grammar.parenTy]

@[spec] theorem pathTy_spec (hg : g.Keeps) (allowPlus : Bool) (lifetimes : TokenStream) :
    ⦃fun c => ⌜c.Good⌝⦄ g.pathTy allowPlus lifetimes ⦃⇓? _ c => ⌜c.Good⌝⦄ := by
  mvcgen [Grammar.pathTy]

@[spec] theorem ambigTy_spec (hg : g.Keeps) (allowPlus : Bool) :
    ⦃fun c => ⌜c.Good⌝⦄ g.ambigTy allowPlus ⦃⇓? _ c => ⌜c.Good⌝⦄ := by
  mvcgen [Grammar.ambigTy] with grind

/-! ### Generic arguments -/

@[spec] theorem constArgument_spec :
    ⦃fun c => ⌜c.Good⌝⦄ g.constArgument ⦃⇓? _ c => ⌜c.Good⌝⦄ := by
  mvcgen [Grammar.constArgument] with grind

@[spec] theorem nonLifetimeArgument_spec (hg : g.Keeps) :
    ⦃fun c => ⌜c.Good⌝⦄ g.nonLifetimeArgument ⦃⇓? _ c => ⌜c.Good⌝⦄ := by
  mvcgen [Grammar.nonLifetimeArgument]

@[spec] theorem genericArgument_spec (hg : g.Keeps) :
    ⦃fun c => ⌜c.Good⌝⦄ g.genericArgument ⦃⇓? _ c => ⌜c.Good⌝⦄ := by
  mvcgen [Grammar.genericArgument]

@[spec] theorem angleArgsPlain_spec (hg : g.Keeps) :
    ⦃fun c => ⌜c.Good⌝⦄ g.angleArgsPlain ⦃⇓? _ c => ⌜c.Good⌝⦄ := by
  mvcgen [Grammar.angleArgsPlain]

end Grammar

/-! ### Visibility and generic parameters -/

@[spec] theorem visibility_spec :
    ⦃fun c => ⌜c.Good⌝⦄ visibility ⦃⇓? _ c => ⌜c.Good⌝⦄ := by
  mvcgen [visibility]

namespace Grammar

variable {g : Grammar}

@[spec] theorem lifetimeParam_spec :
    ⦃fun c => ⌜c.Good⌝⦄ lifetimeParam ⦃⇓? _ c => ⌜c.Good⌝⦄ := by
  mvcgen [Grammar.lifetimeParam]

@[spec] theorem boundsUntil_spec (hg : g.Keeps) {stop : Parse Bool}
    (h : ⦃fun c => ⌜c.Good⌝⦄ stop ⦃⇓? _ c => ⌜c.Good⌝⦄) :
    ⦃fun c => ⌜c.Good⌝⦄ g.boundsUntil stop ⦃⇓? _ c => ⌜c.Good⌝⦄ := by
  mvcgen [Grammar.boundsUntil, h]

@[spec] theorem typeParam_spec (hg : g.Keeps) :
    ⦃fun c => ⌜c.Good⌝⦄ g.typeParam ⦃⇓? _ c => ⌜c.Good⌝⦄ := by
  mvcgen [Grammar.typeParam] with grind

@[spec] theorem constParam_spec (hg : g.Keeps) :
    ⦃fun c => ⌜c.Good⌝⦄ g.constParam ⦃⇓? _ c => ⌜c.Good⌝⦄ := by
  mvcgen [Grammar.constParam] with grind

@[spec] theorem genericParamPlain_spec (hg : g.Keeps) :
    ⦃fun c => ⌜c.Good⌝⦄ g.genericParamPlain ⦃⇓? _ c => ⌜c.Good⌝⦄ := by
  mvcgen [Grammar.genericParamPlain] with grind

@[spec] theorem generics_spec (hg : g.Keeps) :
    ⦃fun c => ⌜c.Good⌝⦄ g.generics ⦃⇓? _ c => ⌜c.Good⌝⦄ := by
  mvcgen [Grammar.generics]

@[spec] theorem atClauseEnd_spec (colonEnds : Bool) :
    ⦃fun c => ⌜c.Good⌝⦄ atClauseEnd colonEnds ⦃⇓? _ c => ⌜c.Good⌝⦄ := by
  mvcgen [Grammar.atClauseEnd]

@[spec] theorem genericsFollow_spec :
    ⦃fun c => ⌜c.Good⌝⦄ genericsFollow ⦃⇓? _ c => ⌜c.Good⌝⦄ := by
  mvcgen [Grammar.genericsFollow]

@[spec] theorem genericsAfterKeyword_spec :
    ⦃fun c => ⌜c.Good⌝⦄ genericsAfterKeyword ⦃⇓? _ c => ⌜c.Good⌝⦄ := by
  mvcgen [Grammar.genericsAfterKeyword]

@[spec] theorem wherePredicate_spec (hg : g.Keeps) :
    ⦃fun c => ⌜c.Good⌝⦄ g.wherePredicate ⦃⇓? _ c => ⌜c.Good⌝⦄ := by
  mvcgen [Grammar.wherePredicate]

@[spec] theorem whereClause_spec (hg : g.Keeps) :
    ⦃fun c => ⌜c.Good⌝⦄ g.whereClause ⦃⇓? _ c => ⌜c.Good⌝⦄ := by
  mvcgen [Grammar.whereClause]

@[spec] theorem optWhere_spec (hg : g.Keeps) :
    ⦃fun c => ⌜c.Good⌝⦄ g.optWhere ⦃⇓? _ c => ⌜c.Good⌝⦄ := by
  mvcgen [Grammar.optWhere]

end Grammar

end Augment.Rust
