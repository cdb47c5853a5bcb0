import Mathlib
import Augment.Proofs.Idents.Grammar
import Augment.Rust.Syntax.Block

/-!
# Patterns, expressions and statements keep the identifiers of the input

The parsers of patterns, expressions and statements keep the cursor good for `P` whenever the
grammar they call through does (`Grammar.Keeps`). The loops that extend an expression over its
operators and postfix steps are bounded by the tokens left; each is proved by induction on that
bound, one round of the loop per step.
-/

namespace Augment.Rust

open Std.Do Parse

set_option mvcgen.warning false

/-- A list of parses, one after the other, each keeping the cursor good, keeps it good. -/
@[spec] theorem Parse.mapM_spec {β γ : Type} {f : β → Parse γ}
    (h : ∀ b, ⦃fun c => ⌜c.Good⌝⦄ f b ⦃⇓? _ c => ⌜c.Good⌝⦄) (l : List β) :
    ⦃fun c => ⌜c.Good⌝⦄ l.mapM f ⦃⇓? _ c => ⌜c.Good⌝⦄ := by
  -- one parse of the list per round
  induction l with
  | nil => mvcgen [List.mapM_nil]
  | cons b l ih => mvcgen [List.mapM_cons, h, ih]

namespace Grammar

variable {g : Grammar}

/-! ### Patterns -/

@[spec] theorem exprPath_spec (hg : g.Keeps) :
    ⦃fun c => ⌜c.Good⌝⦄ g.exprPath ⦃⇓? _ c => ⌜c.Good⌝⦄ := by
  mvcgen [Grammar.exprPath]

@[spec] theorem constBlock_spec :
    ⦃fun c => ⌜c.Good⌝⦄ g.constBlock ⦃⇓? _ c => ⌜c.Good⌝⦄ := by
  mvcgen [Grammar.constBlock]

@[spec] theorem rangeBound_spec (hg : g.Keeps) :
    ⦃fun c => ⌜c.Good⌝⦄ g.rangeBound ⦃⇓? _ c => ⌜c.Good⌝⦄ := by
  mvcgen [Grammar.rangeBound] with grind

@[spec] theorem rangeLimits_spec :
    ⦃fun c => ⌜c.Good⌝⦄ rangeLimits ⦃⇓? _ c => ⌜c.Good⌝⦄ := by
  mvcgen [Grammar.rangeLimits] with grind

@[spec] theorem rangeRest_spec (hg : g.Keeps) (start : TokenStream) :
    ⦃fun c => ⌜c.Good⌝⦄ g.rangeRest start ⦃⇓? _ c => ⌜c.Good⌝⦄ := by
  mvcgen [Grammar.rangeRest]

@[spec] theorem patMulti_spec (hg : g.Keeps) (leadingVert : Bool) :
    ⦃fun c => ⌜c.Good⌝⦄ g.patMulti leadingVert ⦃⇓? _ c => ⌜c.Good⌝⦄ := by
  mvcgen [Grammar.patMulti]

@[spec] theorem patList_spec (hg : g.Keeps) :
    ⦃fun c => ⌜c.Good⌝⦄ g.patList ⦃⇓? _ c => ⌜c.Good⌝⦄ := by
  mvcgen [Grammar.patList]

@[spec] theorem member_spec :
    ⦃fun c => ⌜c.Good⌝⦄ member ⦃⇓? _ c => ⌜c.Good⌝⦄ := by
  mvcgen [Grammar.member] with grind

@[spec] theorem fieldPat_spec (hg : g.Keeps) :
    ⦃fun c => ⌜c.Good⌝⦄ g.fieldPat ⦃⇓? _ c => ⌜c.Good⌝⦄ := by
  mvcgen [Grammar.fieldPat] with grind

@[spec] theorem structPatBody_spec :
    ⦃fun c => ⌜c.Good⌝⦄ g.structPatBody ⦃⇓? _ c => ⌜c.Good⌝⦄ := by
  mvcgen [Grammar.structPatBody]

@[spec] theorem pathPat_spec (hg : g.Keeps) :
    ⦃fun c => ⌜c.Good⌝⦄ g.pathPat ⦃⇓? _ c => ⌜c.Good⌝⦄ := by
  mvcgen [Grammar.pathPat] with grind

@[spec] theorem identPat_spec (hg : g.Keeps) :
    ⦃fun c => ⌜c.Good⌝⦄ g.identPat ⦃⇓? _ c => ⌜c.Good⌝⦄ := by
  mvcgen [Grammar.identPat] with grind

@[spec] theorem parenPat_spec :
    ⦃fun c => ⌜c.Good⌝⦄ g.parenPat ⦃⇓? _ c => ⌜c.Good⌝⦄ := by
  mvcgen [Grammar.parenPat]

@[spec] theorem slicePat_spec :
    ⦃fun c => ⌜c.Good⌝⦄ g.slicePat ⦃⇓? _ c => ⌜c.Good⌝⦄ := by
  mvcgen [Grammar.slicePat]

@[spec] theorem patPlain_spec (hg : g.Keeps) :
    ⦃fun c => ⌜c.Good⌝⦄ g.patPlain ⦃⇓? _ c => ⌜c.Good⌝⦄ := by
  mvcgen [Grammar.patPlain] with grind

end Grammar

/-! ### Operators -/

@[spec] theorem peekPrecedence_spec :
    ⦃fun c => ⌜c.Good⌝⦄ peekPrecedence ⦃⇓? _ c => ⌜c.Good⌝⦄ := by
  mvcgen [peekPrecedence]

@[spec] theorem canBeginExpr_spec :
    ⦃fun c => ⌜c.Good⌝⦄ canBeginExpr ⦃⇓? _ c => ⌜c.Good⌝⦄ := by
  mvcgen [canBeginExpr]

@[spec] theorem exprRangeLimits_spec :
    ⦃fun c => ⌜c.Good⌝⦄ exprRangeLimits ⦃⇓? _ c => ⌜c.Good⌝⦄ := by
  mvcgen [exprRangeLimits] with grind

@[spec] theorem rangeEndsHere_spec (allowStruct : Bool) :
    ⦃fun c => ⌜c.Good⌝⦄ rangeEndsHere allowStruct ⦃⇓? _ c => ⌜c.Good⌝⦄ := by
  mvcgen [rangeEndsHere]

@[spec] theorem checkCast_spec :
    ⦃fun c => ⌜c.Good⌝⦄ checkCast ⦃⇓? _ c => ⌜c.Good⌝⦄ := by
  mvcgen [checkCast] with grind

namespace Grammar

variable {g : Grammar}

/-! ### Binary operators -/

@[spec] theorem binopRhs_go_spec (hg : g.Keeps) (allowStruct : Bool) (prec : Prec) (n : Nat) (e : Expr) :
    ⦃fun c => ⌜c.Good⌝⦄ binopRhs.go g allowStruct prec n e ⦃⇓? _ c => ⌜c.Good⌝⦄ := by
  induction n generalizing e with
  | zero => mvcgen [Grammar.binopRhs.go]
  | succ n ih => mvcgen [Grammar.binopRhs.go, ih]

@[spec] theorem binopRhs_spec (hg : g.Keeps) (allowStruct : Bool) (prec : Prec) :
    ⦃fun c => ⌜c.Good⌝⦄ g.binopRhs allowStruct prec ⦃⇓? _ c => ⌜c.Good⌝⦄ := by
  mvcgen [Grammar.binopRhs] with grind

@[spec] theorem rangeEnd_spec (hg : g.Keeps) (closed allowStruct : Bool) :
    ⦃fun c => ⌜c.Good⌝⦄ g.rangeEnd closed allowStruct ⦃⇓? _ c => ⌜c.Good⌝⦄ := by
  mvcgen [Grammar.rangeEnd]

@[spec] theorem extendStep_spec (hg : g.Keeps) (lhs : Expr) (allowStruct : Bool) (base : Prec) :
    ⦃fun c => ⌜c.Good⌝⦄ g.extendStep lhs allowStruct base ⦃⇓? _ c => ⌜c.Good⌝⦄ := by
  mvcgen [Grammar.extendStep]

@[spec] theorem exprFromPlain_go_spec (hg : g.Keeps) (allowStruct : Bool) (base : Prec) (n : Nat) (e : Expr) :
    ⦃fun c => ⌜c.Good⌝⦄ exprFromPlain.go g allowStruct base n e ⦃⇓? _ c => ⌜c.Good⌝⦄ := by
  induction n generalizing e with
  | zero => mvcgen [Grammar.exprFromPlain.go]
  | succ n ih => mvcgen [Grammar.exprFromPlain.go, ih]

@[spec] theorem exprFromPlain_spec (hg : g.Keeps) (lhs : Expr) (allowStruct : Bool) (base : Prec) :
    ⦃fun c => ⌜c.Good⌝⦄ g.exprFromPlain lhs allowStruct base ⦃⇓? _ c => ⌜c.Good⌝⦄ := by
  mvcgen [Grammar.exprFromPlain] with grind

/-! ### Atoms -/

@[spec] theorem exprList_spec (hg : g.Keeps) :
    ⦃fun c => ⌜c.Good⌝⦄ g.exprList ⦃⇓? _ c => ⌜c.Good⌝⦄ := by
  mvcgen [Grammar.exprList]

@[spec] theorem parenOrTuple_spec :
    ⦃fun c => ⌜c.Good⌝⦄ g.parenOrTuple ⦃⇓? _ c => ⌜c.Good⌝⦄ := by
  mvcgen [Grammar.parenOrTuple]

@[spec] theorem arrayOrRepeat_spec :
    ⦃fun c => ⌜c.Good⌝⦄ g.arrayOrRepeat ⦃⇓? _ c => ⌜c.Good⌝⦄ := by
  mvcgen [Grammar.arrayOrRepeat]

@[spec] theorem fieldValue_spec (hg : g.Keeps) :
    ⦃fun c => ⌜c.Good⌝⦄ g.fieldValue ⦃⇓? _ c => ⌜c.Good⌝⦄ := by
  mvcgen [Grammar.fieldValue]

@[spec] theorem structBody_spec :
    ⦃fun c => ⌜c.Good⌝⦄ g.structBody ⦃⇓? _ c => ⌜c.Good⌝⦄ := by
  mvcgen [Grammar.structBody]

@[spec] theorem pathOrMacroOrStruct_spec (hg : g.Keeps) (allowStruct : Bool) :
    ⦃fun c => ⌜c.Good⌝⦄ g.pathOrMacroOrStruct allowStruct ⦃⇓? _ c => ⌜c.Good⌝⦄ := by
  mvcgen [Grammar.pathOrMacroOrStruct]

@[spec] theorem closureArg_spec (hg : g.Keeps) :
    ⦃fun c => ⌜c.Good⌝⦄ g.closureArg ⦃⇓? _ c => ⌜c.Good⌝⦄ := by
  mvcgen [Grammar.closureArg]

@[spec] theorem closure_spec (hg : g.Keeps) (allowStruct : Bool) :
    ⦃fun c => ⌜c.Good⌝⦄ g.closure allowStruct ⦃⇓? _ c => ⌜c.Good⌝⦄ := by
  mvcgen [Grammar.closure]

@[spec] theorem breakExpr_spec (hg : g.Keeps) (allowStruct : Bool) :
    ⦃fun c => ⌜c.Good⌝⦄ g.breakExpr allowStruct ⦃⇓? _ c => ⌜c.Good⌝⦄ := by
  mvcgen [Grammar.breakExpr] with grind

@[spec] theorem ifExpr_spec (hg : g.Keeps) :
    ⦃fun c => ⌜c.Good⌝⦄ g.ifExpr ⦃⇓? _ c => ⌜c.Good⌝⦄ := by
  mvcgen [Grammar.ifExpr] with grind

@[spec] theorem whileExpr_spec (hg : g.Keeps) :
    ⦃fun c => ⌜c.Good⌝⦄ g.whileExpr ⦃⇓? _ c => ⌜c.Good⌝⦄ := by
  mvcgen [Grammar.whileExpr]

@[spec] theorem forExpr_spec (hg : g.Keeps) :
    ⦃fun c => ⌜c.Good⌝⦄ g.forExpr ⦃⇓? _ c => ⌜c.Good⌝⦄ := by
  mvcgen [Grammar.forExpr]

@[spec] theorem loopExpr_spec :
    ⦃fun c => ⌜c.Good⌝⦄ g.loopExpr ⦃⇓? _ c => ⌜c.Good⌝⦄ := by
  mvcgen [Grammar.loopExpr]

@[spec] theorem unsafeExpr_spec :
    ⦃fun c => ⌜c.Good⌝⦄ g.unsafeExpr ⦃⇓? _ c => ⌜c.Good⌝⦄ := by
  mvcgen [Grammar.unsafeExpr]

@[spec] theorem tryBlockExpr_spec :
    ⦃fun c => ⌜c.Good⌝⦄ g.tryBlockExpr ⦃⇓? _ c => ⌜c.Good⌝⦄ := by
  mvcgen [Grammar.tryBlockExpr]

@[spec] theorem asyncExpr_spec :
    ⦃fun c => ⌜c.Good⌝⦄ g.asyncExpr ⦃⇓? _ c => ⌜c.Good⌝⦄ := by
  mvcgen [Grammar.asyncExpr]

@[spec] theorem matchArm_spec (hg : g.Keeps) :
    ⦃fun c => ⌜c.Good⌝⦄ g.matchArm ⦃⇓? _ c => ⌜c.Good⌝⦄ := by
  mvcgen [Grammar.matchArm]

@[spec] theorem matchExpr_spec (hg : g.Keeps) :
    ⦃fun c => ⌜c.Good⌝⦄ g.matchExpr ⦃⇓? _ c => ⌜c.Good⌝⦄ := by
  mvcgen [Grammar.matchExpr]

@[spec] theorem labeled_spec (hg : g.Keeps) :
    ⦃fun c => ⌜c.Good⌝⦄ g.labeled ⦃⇓? _ c => ⌜c.Good⌝⦄ := by
  mvcgen [Grammar.labeled]

@[spec] theorem atom_spec (hg : g.Keeps) (allowStruct : Bool) :
    ⦃fun c => ⌜c.Good⌝⦄ g.atom allowStruct ⦃⇓? _ c => ⌜c.Good⌝⦄ := by
  mvcgen [Grammar.atom] with grind

@[spec] theorem multiIndex_spec (e : Expr) (dot : TokenStream) (l : Lit) :
    ⦃fun c => ⌜c.Good⌝⦄ multiIndex e dot l ⦃⇓? _ c => ⌜c.Good⌝⦄ := by
  mvcgen [Grammar.multiIndex] with grind

@[spec] theorem postfixStep_spec (hg : g.Keeps) (e : Expr) :
    ⦃fun c => ⌜c.Good⌝⦄ g.postfixStep e ⦃⇓? _ c => ⌜c.Good⌝⦄ := by
  mvcgen [Grammar.postfixStep]

@[spec] theorem postfixChain_go_spec (hg : g.Keeps) (n : Nat) (e : Expr) :
    ⦃fun c => ⌜c.Good⌝⦄ postfixChain.go g n e ⦃⇓? _ c => ⌜c.Good⌝⦄ := by
  induction n generalizing e with
  | zero => mvcgen [Grammar.postfixChain.go]
  | succ n ih => mvcgen [Grammar.postfixChain.go, ih]

@[spec] theorem postfixChain_spec (hg : g.Keeps) (e : Expr) :
    ⦃fun c => ⌜c.Good⌝⦄ g.postfixChain e ⦃⇓? _ c => ⌜c.Good⌝⦄ := by
  mvcgen [Grammar.postfixChain] with grind

@[spec] theorem exprAttrs_spec :
    ⦃fun c => ⌜c.Good⌝⦄ g.exprAttrs ⦃⇓? _ c => ⌜c.Good⌝⦄ := by
  mvcgen [Grammar.exprAttrs]

@[spec] theorem unaryPlain_spec (hg : g.Keeps) (allowStruct : Bool) :
    ⦃fun c => ⌜c.Good⌝⦄ g.unaryPlain allowStruct ⦃⇓? _ c => ⌜c.Good⌝⦄ := by
  mvcgen [Grammar.unaryPlain] with grind

@[spec] theorem stmtExprPlain_spec (hg : g.Keeps) :
    ⦃fun c => ⌜c.Good⌝⦄ g.stmtExprPlain ⦃⇓? _ c => ⌜c.Good⌝⦄ := by
  mvcgen [Grammar.stmtExprPlain] with grind

/-! ### Statements -/

@[spec] theorem startsItem_spec (isItemMacro : Bool) :
    ⦃fun c => ⌜c.Good⌝⦄ startsItem isItemMacro ⦃⇓? _ c => ⌜c.Good⌝⦄ := by
  mvcgen [Grammar.startsItem]

@[spec] theorem localStmt_spec (hg : g.Keeps) :
    ⦃fun c => ⌜c.Good⌝⦄ g.localStmt ⦃⇓? _ c => ⌜c.Good⌝⦄ := by
  mvcgen [Grammar.localStmt]

@[spec] theorem stmt_spec (hg : g.Keeps) :
    ⦃fun c => ⌜c.Good⌝⦄ g.stmt ⦃⇓? _ c => ⌜c.Good⌝⦄ := by
  mvcgen [Grammar.stmt]

@[spec] theorem stmtsPlain_spec (hg : g.Keeps) :
    ⦃fun c => ⌜c.Good⌝⦄ g.stmtsPlain ⦃⇓? _ c => ⌜c.Good⌝⦄ := by
  mvcgen [Grammar.stmtsPlain]

end Grammar

end Augment.Rust
