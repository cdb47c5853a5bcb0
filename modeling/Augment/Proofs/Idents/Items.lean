import Mathlib
import Augment.Proofs.Idents.Expressions
import Augment.Rust.Syntax.File
import Augment.Proofs.AttributeLists

/-!
# Items declare names of the input

An item's parser keeps the cursor good, and the names the item declares (a type's name and
fields, the functions of an impl block, the items of an inline module) are identifiers it read,
so they are ASCII identifier texts (`Item.NamedBy AsciiIdent`). One level of the grammar built
over a grammar that keeps its cursors good does too (`Grammar.Keeps.deeper`), and so does the
grammar of every input (`keeps_grammarFor`); a source file whose identifiers are ASCII and that
parses declares only such names (`parseFile_namedBy`).
-/

namespace Augment.Rust

open Std.Do Parse

set_option mvcgen.warning false

/-- The name of a field, if it has one, satisfies `P`. -/
def Field.NamedBy (P : String → Prop) (f : Field) : Prop :=
  ∀ n p, f.ident = some (n, p) → P n

namespace Grammar

variable {g : Grammar}

/-! ### Functions -/

@[spec] theorem receiver_spec (hg : g.Keeps) :
    ⦃fun c => ⌜c.Good⌝⦄ g.receiver ⦃⇓? _ c => ⌜c.Good⌝⦄ := by
  mvcgen [Grammar.receiver]

@[spec] theorem fnArg_spec (hg : g.Keeps) (allowVariadic : Bool) :
    ⦃fun c => ⌜c.Good⌝⦄ g.fnArg allowVariadic ⦃⇓? _ c => ⌜c.Good⌝⦄ := by
  mvcgen [Grammar.fnArg] with grind

@[spec] theorem fnArgsFrom_spec (hg : g.Keeps) (fuel : Nat) (r : Bool) (n : Nat)
    (acc : TokenStream) :
    ⦃fun c => ⌜c.Good⌝⦄ g.fnArgsFrom fuel r n acc ⦃⇓? _ c => ⌜c.Good⌝⦄ := by
  -- on the parameters left to read; a step may go back to the cursor it started from
  induction fuel generalizing r n acc with
  | zero => mvcgen [Grammar.fnArgsFrom]
  | succ fuel ih => mvcgen [Grammar.fnArgsFrom, ih]

@[spec] theorem fnArgs_spec (hg : g.Keeps) :
    ⦃fun c => ⌜c.Good⌝⦄ g.fnArgs ⦃⇓? _ c => ⌜c.Good⌝⦄ := by
  mvcgen [Grammar.fnArgs] with grind

/-- The name of a signature is an identifier read, so it satisfies `P` and is no keyword. -/
theorem signature_spec_of (hg : g.Keeps) (allowSafe : Bool) :
    ⦃fun c => ⌜c.Good⌝⦄ g.signature allowSafe ⦃⇓? r => ⌜∀ s, r = some s →
      AsciiIdent s.ident ∧ acceptsAsIdent s.ident = true⌝ ∧ fun c => ⌜c.Good⌝⦄ := by
  mvcgen [Grammar.signature] with grind

@[spec] theorem signature_spec (hg : g.Keeps) (allowSafe : Bool) :
    ⦃fun c => ⌜c.Good⌝⦄ g.signature allowSafe ⦃⇓? _ c => ⌜c.Good⌝⦄ :=
  good_of_triple_of (signature_spec_of hg allowSafe)

@[spec] theorem fnBody_spec :
    ⦃fun c => ⌜c.Good⌝⦄ g.fnBody ⦃⇓? _ c => ⌜c.Good⌝⦄ := by
  mvcgen [Grammar.fnBody]

/-! ### Structs, enums and unions -/

/-- Every field read satisfies what each one read does. -/
theorem fields_spec_of {one : Parse (Field × TokenStream)} {Q : Field → Prop}
    (h : ⦃fun c => ⌜c.Good⌝⦄ one ⦃⇓? r => ⌜Q r.1⌝ ∧ fun c => ⌜c.Good⌝⦄) :
    ⦃fun c => ⌜c.Good⌝⦄ fields one ⦃⇓? r => ⌜∀ f ∈ r.1, Q f⌝ ∧ fun c => ⌜c.Good⌝⦄ := by
  have hc : ∀ step : Parse (Option ((Field × TokenStream) × Bool)),
      ⦃fun c => ⌜c.Good⌝⦄ step ⦃⇓? r => ⌜∀ a b, r = some (a, b) → Q a.1⌝ ∧
        fun c => ⌜c.Good⌝⦄ →
      ⦃fun c => ⌜c.Good⌝⦄ chain step ⦃⇓? r => ⌜∀ a ∈ r, Q a.1⌝ ∧ fun c => ⌜c.Good⌝⦄ :=
    fun _ hs => chain_spec_of hs
  mvcgen [Grammar.fields, -Parse.chain_spec, hc, h] with grind

@[spec] theorem plainNamedField_spec (hg : g.Keeps) :
    ⦃fun c => ⌜c.Good⌝⦄ g.plainNamedField ⦃⇓? _ c => ⌜c.Good⌝⦄ := by
  mvcgen [Grammar.plainNamedField] with grind

theorem namedField_spec_of (hg : g.Keeps) :
    ⦃fun c => ⌜c.Good⌝⦄ g.namedField ⦃⇓? r => ⌜r.1.NamedBy AsciiIdent⌝ ∧ fun c => ⌜c.Good⌝⦄ := by
  mvcgen [Grammar.namedField] with grind [Field.NamedBy]

theorem unnamedField_spec_of (hg : g.Keeps) :
    ⦃fun c => ⌜c.Good⌝⦄ g.unnamedField ⦃⇓? r => ⌜r.1.NamedBy AsciiIdent⌝ ∧ fun c => ⌜c.Good⌝⦄ := by
  mvcgen [Grammar.unnamedField] with grind [Field.NamedBy]

theorem namedFields_spec_of (hg : g.Keeps) :
    ⦃fun c => ⌜c.Good⌝⦄ g.namedFields ⦃⇓? r => ⌜∀ f ∈ r.1, f.NamedBy AsciiIdent⌝ ∧
      fun c => ⌜c.Good⌝⦄ := by
  have hf := fields_spec_of (namedField_spec_of hg)
  have hi := @inGroup_spec_of _ .brace _ _ hf
  mvcgen [Grammar.namedFields, -Parse.inGroup_spec, hi]

theorem unnamedFields_spec_of (hg : g.Keeps) :
    ⦃fun c => ⌜c.Good⌝⦄ g.unnamedFields ⦃⇓? r => ⌜∀ f ∈ r.1, f.NamedBy AsciiIdent⌝ ∧
      fun c => ⌜c.Good⌝⦄ := by
  have hf := fields_spec_of (unnamedField_spec_of hg)
  have hi := @inGroup_spec_of _ .paren _ _ hf
  mvcgen [Grammar.unnamedFields, -Parse.inGroup_spec, hi]

@[spec] theorem namedFields_spec (hg : g.Keeps) :
    ⦃fun c => ⌜c.Good⌝⦄ g.namedFields ⦃⇓? _ c => ⌜c.Good⌝⦄ :=
  good_of_triple_of (namedFields_spec_of hg)

@[spec] theorem unnamedFields_spec (hg : g.Keeps) :
    ⦃fun c => ⌜c.Good⌝⦄ g.unnamedFields ⦃⇓? _ c => ⌜c.Good⌝⦄ :=
  good_of_triple_of (unnamedFields_spec_of hg)

theorem structFields_spec_of (hg : g.Keeps) :
    ⦃fun c => ⌜c.Good⌝⦄ g.structFields ⦃⇓? r => ⌜∀ f ∈ r.2.1.toList, f.NamedBy AsciiIdent⌝ ∧
      fun c => ⌜c.Good⌝⦄ := by
  have hn := namedFields_spec_of hg
  have hu := unnamedFields_spec_of hg
  mvcgen [Grammar.structFields, -Grammar.namedFields_spec, -Grammar.unnamedFields_spec, hn, hu]
    with grind [Fields.toList]

theorem structDecl_spec_of (hg : g.Keeps) (attrs : List Attribute) :
    ⦃fun c => ⌜c.Good⌝⦄ g.structDecl attrs ⦃⇓? r => ⌜r.NamedBy AsciiIdent⌝ ∧ fun c => ⌜c.Good⌝⦄ := by
  have hs := structFields_spec_of hg
  mvcgen [Grammar.structDecl, hs] with grind [TypeDecl.NamedBy.mk, Field.NamedBy]

@[spec] theorem variant_spec (hg : g.Keeps) :
    ⦃fun c => ⌜c.Good⌝⦄ g.variant ⦃⇓? _ c => ⌜c.Good⌝⦄ := by
  mvcgen [Grammar.variant] with grind

theorem enumDecl_spec_of (hg : g.Keeps) (attrs : List Attribute) :
    ⦃fun c => ⌜c.Good⌝⦄ g.enumDecl attrs ⦃⇓? r => ⌜r.NamedBy AsciiIdent⌝ ∧ fun c => ⌜c.Good⌝⦄ := by
  mvcgen [Grammar.enumDecl] with grind [TypeDecl.NamedBy.mk, Fields.toList]

theorem unionDecl_spec_of (hg : g.Keeps) (attrs : List Attribute) :
    ⦃fun c => ⌜c.Good⌝⦄ g.unionDecl attrs ⦃⇓? r => ⌜r.NamedBy AsciiIdent⌝ ∧ fun c => ⌜c.Good⌝⦄ := by
  have hn := namedFields_spec_of hg
  mvcgen [Grammar.unionDecl, -Grammar.namedFields_spec, hn]
    with grind [TypeDecl.NamedBy.mk, Fields.toList, Field.NamedBy]

/-! ### Type aliases, constants and macros -/

@[spec] theorem boundsBefore_spec (hg : g.Keeps) (allowConst : Bool) {stop : Parse Bool}
    (h : ⦃fun c => ⌜c.Good⌝⦄ stop ⦃⇓? _ c => ⌜c.Good⌝⦄) :
    ⦃fun c => ⌜c.Good⌝⦄ g.boundsBefore allowConst stop ⦃⇓? _ c => ⌜c.Good⌝⦄ := by
  mvcgen [Grammar.boundsBefore, h]

@[spec] theorem flexibleType_spec (hg : g.Keeps) (allowDefault before after : Bool) :
    ⦃fun c => ⌜c.Good⌝⦄ g.flexibleType allowDefault before after ⦃⇓? _ c => ⌜c.Good⌝⦄ := by
  mvcgen [Grammar.flexibleType] with grind

@[spec] theorem constItem_spec (hg : g.Keeps) (valueOptional : Bool) :
    ⦃fun c => ⌜c.Good⌝⦄ g.constItem valueOptional ⦃⇓? _ c => ⌜c.Good⌝⦄ := by
  mvcgen [Grammar.constItem] with grind

@[spec] theorem itemMacroTokens_spec :
    ⦃fun c => ⌜c.Good⌝⦄ itemMacroTokens ⦃⇓? _ c => ⌜c.Good⌝⦄ := by
  mvcgen [Grammar.itemMacroTokens] with grind

/-! ### Impl blocks and traits -/

/-- The function an associated item is, if it is one, is named by an identifier read. -/
theorem implItem_spec_of (hg : g.Keeps) :
    ⦃fun c => ⌜c.Good⌝⦄ g.implItem ⦃⇓? r => ⌜∀ f, r.1 = some f →
      AsciiIdent f.ident ∧ acceptsAsIdent f.ident = true⌝ ∧ fun c => ⌜c.Good⌝⦄ := by
  have hs := signature_spec_of hg false
  mvcgen [Grammar.implItem, -Grammar.signature_spec, hs] with grind

@[spec] theorem implItem_spec (hg : g.Keeps) :
    ⦃fun c => ⌜c.Good⌝⦄ g.implItem ⦃⇓? _ c => ⌜c.Good⌝⦄ :=
  good_of_triple_of (implItem_spec_of hg)

@[spec] theorem traitItem_spec (hg : g.Keeps) :
    ⦃fun c => ⌜c.Good⌝⦄ g.traitItem ⦃⇓? _ c => ⌜c.Good⌝⦄ := by
  mvcgen [Grammar.traitItem]

@[spec] theorem traitRest_spec (hg : g.Keeps) :
    ⦃fun c => ⌜c.Good⌝⦄ g.traitRest ⦃⇓? _ c => ⌜c.Good⌝⦄ := by
  mvcgen [Grammar.traitRest]

@[spec] theorem traitOrAlias_spec (hg : g.Keeps) :
    ⦃fun c => ⌜c.Good⌝⦄ g.traitOrAlias ⦃⇓? _ c => ⌜c.Good⌝⦄ := by
  mvcgen [Grammar.traitOrAlias] with grind

/-- The functions of an impl block are named by identifiers read. -/
theorem implBlock_spec_of (hg : g.Keeps) :
    ⦃fun c => ⌜c.Good⌝⦄ g.implBlock ⦃⇓? r => ⌜∀ b ts, r = some (b, ts) →
      ∀ f ∈ b.fns, AsciiIdent f.ident ∧ acceptsAsIdent f.ident = true⌝ ∧ fun c => ⌜c.Good⌝⦄ := by
  have hi := implItem_spec_of hg
  have hstep : ⦃fun c => ⌜c.Good⌝⦄ (do
        if ← atEnd then return none
        return some (← g.implItem) : Parse (Option (Option ImplFn × TokenStream)))
      ⦃⇓? r => ⌜∀ a, r = some a → ∀ f, a.1 = some f →
        AsciiIdent f.ident ∧ acceptsAsIdent f.ident = true⌝ ∧ fun c => ⌜c.Good⌝⦄ := by
    mvcgen [-Grammar.implItem_spec, hi] with grind
  -- The body is specified once: each branch of the header leaves a copy of it behind, and this
  -- triple closes every copy without going through the body again.
  have hbody : ⦃fun c => ⌜c.Good⌝⦄ inGroup .brace (do
        let inner ← g.innerAttrs
        let items ← many do
          if ← atEnd then return none
          return some (← g.implItem)
        return (items.filterMap (·.1), attrsTokens inner ++ (items.map (·.2)).flatten))
      ⦃⇓? r => ⌜∀ f ∈ r.1, AsciiIdent f.ident ∧ acceptsAsIdent f.ident = true⌝ ∧
        fun c => ⌜c.Good⌝⦄ := by
    have hm := many_spec_of hstep
    exact inGroup_spec_of (by mvcgen [-Parse.many_spec, hm] with grind)
  mvcgen [Grammar.implBlock, -Parse.inGroup_spec, hbody] with grind

@[spec] theorem implBlock_spec (hg : g.Keeps) :
    ⦃fun c => ⌜c.Good⌝⦄ g.implBlock ⦃⇓? _ c => ⌜c.Good⌝⦄ :=
  good_of_triple_of (implBlock_spec_of hg)

/-! ### Use declarations and other items -/

@[spec] theorem useTree_spec (allowRoot : Bool) (n : Nat) :
    ⦃fun c => ⌜c.Good⌝⦄ useTree allowRoot n ⦃⇓? _ c => ⌜c.Good⌝⦄ := by
  -- on the nesting left
  induction n generalizing allowRoot with
  | zero => (mvcgen [Grammar.useTree] with grind)
  | succ n ih => (mvcgen [Grammar.useTree, ih] with grind)

/-- A `use` declaration read is an item naming nothing. -/
theorem useDecl_spec_of :
    ⦃fun c => ⌜c.Good⌝⦄ useDecl ⦃⇓? r => ⌜∀ it, r = some it → it.NamedBy AsciiIdent⌝ ∧
      fun c => ⌜c.Good⌝⦄ := by
  mvcgen [Grammar.useDecl] with grind [Item.NamedBy.use, Option.map_eq_some_iff]

theorem externCrate_spec_of :
    ⦃fun c => ⌜c.Good⌝⦄ externCrate ⦃⇓? r => ⌜r.NamedBy AsciiIdent⌝ ∧ fun c => ⌜c.Good⌝⦄ := by
  mvcgen [Grammar.externCrate] with grind [Item.NamedBy.externCrate]

@[spec] theorem externCrate_spec :
    ⦃fun c => ⌜c.Good⌝⦄ externCrate ⦃⇓? _ c => ⌜c.Good⌝⦄ :=
  good_of_triple_of externCrate_spec_of

@[spec] theorem foreignItem_spec (hg : g.Keeps) :
    ⦃fun c => ⌜c.Good⌝⦄ g.foreignItem ⦃⇓? _ c => ⌜c.Good⌝⦄ := by
  mvcgen [Grammar.foreignItem] with grind

@[spec] theorem foreignMod_spec :
    ⦃fun c => ⌜c.Good⌝⦄ g.foreignMod ⦃⇓? _ c => ⌜c.Good⌝⦄ := by
  mvcgen [Grammar.foreignMod]

/-! ### Modules and items -/

/-- The items of an inline module are items read, so they declare only names satisfying `P`. -/
theorem modDecl_spec_of (hg : g.Keeps) :
    ⦃fun c => ⌜c.Good⌝⦄ g.modDecl ⦃⇓? r => ⌜∀ items, r.2.2.1 = some items →
      ∀ i ∈ items, i.NamedBy AsciiIdent⌝ ∧ fun c => ⌜c.Good⌝⦄ := by
  have hr := hg.itemRest_spec_of
  have hm : ∀ step : Parse (Option (Item × TokenStream)),
      ⦃fun c => ⌜c.Good⌝⦄ step ⦃⇓? r => ⌜∀ a, r = some a → a.1.NamedBy AsciiIdent⌝ ∧
        fun c => ⌜c.Good⌝⦄ →
      ⦃fun c => ⌜c.Good⌝⦄ many step ⦃⇓? r => ⌜∀ a ∈ r, a.1.NamedBy AsciiIdent⌝ ∧
        fun c => ⌜c.Good⌝⦄ :=
    fun _ hs => many_spec_of hs
  have hin : ∀ body : Parse (List Attribute × List (Item × TokenStream)),
      ⦃fun c => ⌜c.Good⌝⦄ body ⦃⇓? r => ⌜∀ a ∈ r.2, a.1.NamedBy AsciiIdent⌝ ∧
        fun c => ⌜c.Good⌝⦄ →
      ⦃fun c => ⌜c.Good⌝⦄ inGroup .brace body ⦃⇓? r => ⌜∀ a ∈ r.2, a.1.NamedBy AsciiIdent⌝ ∧
        fun c => ⌜c.Good⌝⦄ :=
    fun _ hs => inGroup_spec_of hs
  mvcgen [Grammar.modDecl, -Parse.inGroup_spec, hin, -Parse.many_spec, hm,
    -Keeps.itemRest_spec, hr] with grind

@[spec] theorem modDecl_spec (hg : g.Keeps) :
    ⦃fun c => ⌜c.Good⌝⦄ g.modDecl ⦃⇓? _ c => ⌜c.Good⌝⦄ :=
  good_of_triple_of (modDecl_spec_of hg)

/-- An item read after its outer attributes declares only names read as identifiers. -/
theorem itemRestPlain_spec_of (hg : g.Keeps) (begin : TokenStream) (attrs : List Attribute) :
    ⦃fun c => ⌜c.Good⌝⦄ g.itemRestPlain begin attrs
    ⦃⇓? r => ⌜r.1.NamedBy AsciiIdent⌝ ∧ fun c => ⌜c.Good⌝⦄ := by
  have hs := structDecl_spec_of hg attrs
  have he := enumDecl_spec_of hg attrs
  have hu := unionDecl_spec_of hg attrs
  have hi := implBlock_spec_of hg
  have hm := modDecl_spec_of hg
  mvcgen [Grammar.itemRestPlain, -Grammar.implBlock_spec, hi, -Grammar.modDecl_spec, hm,
    -Grammar.externCrate_spec, externCrate_spec_of, useDecl_spec_of, hs, he, hu] with
    grind [Item.NamedBy.other, Item.NamedBy.decl, Item.NamedBy.impl, Item.NamedBy.mod]

theorem item_spec_of (hg : g.Keeps) :
    ⦃fun c => ⌜c.Good⌝⦄ g.item ⦃⇓? r => ⌜r.1.NamedBy AsciiIdent⌝ ∧ fun c => ⌜c.Good⌝⦄ := by
  have hr := hg.itemRest_spec_of
  mvcgen [Grammar.item, -Keeps.itemRest_spec, hr]

theorem file_spec_of (hg : g.Keeps) :
    ⦃fun c => ⌜c.Good⌝⦄ g.file ⦃⇓? r => ⌜∀ i ∈ r, i.NamedBy AsciiIdent⌝ ∧ fun c => ⌜c.Good⌝⦄ := by
  have hi := item_spec_of hg
  have hstep : ⦃fun c => ⌜c.Good⌝⦄ (do
        if ← atEnd then return none
        return some (← g.item).1 : Parse (Option Item))
      ⦃⇓? r => ⌜∀ a, r = some a → a.NamedBy AsciiIdent⌝ ∧ fun c => ⌜c.Good⌝⦄ := by
    mvcgen [hi] with grind
  have hm := many_spec_of hstep
  mvcgen [Grammar.file, -Parse.many_spec, hm]

/-! ### Every level of the grammar -/

/-- One level built over a grammar that keeps its cursors good keeps them good too: each
category parser of the new level is one of the plain parsers above. -/
theorem Keeps.deeper (hg : g.Keeps) : g.deeper.Keeps where
  ty := ambigTy_spec hg
  angleArgs := angleArgsPlain_spec hg
  unary := unaryPlain_spec hg
  exprFrom := exprFromPlain_spec hg
  stmtExpr := stmtExprPlain_spec hg
  pat := patPlain_spec hg
  genericParam := genericParamPlain_spec hg
  stmts := stmtsPlain_spec hg
  itemRest := itemRestPlain_spec_of hg

/-- The bottom level fails at once, so it keeps every cursor it is given. -/
theorem keeps_exhausted : exhausted.Keeps := by
  have hstop : ∀ {α : Type} (Q : α → Prop), ⦃fun c => ⌜c.Good⌝⦄
      (failHere "nesting too deep" : Parse α) ⦃⇓? r => ⌜Q r⌝ ∧ fun c => ⌜c.Good⌝⦄ := by
    intro α Q
    mvcgen with grind
  exact { ty := fun _ => good_of_triple_of (hstop fun _ => True)
          angleArgs := good_of_triple_of (hstop fun _ => True)
          unary := fun _ => good_of_triple_of (hstop fun _ => True)
          exprFrom := fun _ _ _ => good_of_triple_of (hstop fun _ => True)
          stmtExpr := good_of_triple_of (hstop fun _ => True)
          pat := good_of_triple_of (hstop fun _ => True)
          genericParam := good_of_triple_of (hstop fun _ => True)
          stmts := good_of_triple_of (hstop fun _ => True)
          itemRest := fun _ _ => hstop _ }

theorem Keeps.raise (hg : g.Keeps) (n : Nat) : (g.raise n).Keeps := by
  -- on the levels added above `g`, the lowest first
  induction n generalizing g with
  | zero => exact hg
  | succ n ih => exact ih hg.deeper

end Grammar

theorem keeps_grammarFor (ts : TokenStream) : (grammarFor ts).Keeps :=
  Grammar.keeps_exhausted.raise _

/-! ### Source files -/

/-- Every identifier of a source text, as the lexer reads it, is ASCII. -/
def IdentsAscii (text : String) : Prop :=
  ∀ ts, lex (stripFileHeader text) = .ok ts →
    TokenStream.IdentsAll (fun s => Text.isAsciiText s = true) ts

/-- **A parsed source file declares only names read as identifiers.** When the identifiers of
a source text are ASCII, each item of the file, its fields, impl functions and inline modules
included, is named by ASCII identifier texts. -/
theorem parseFile_namedBy {text : String} {items : List Item} (hascii : IdentsAscii text)
    (h : parseFile text = .ok items) : ∀ i ∈ items, i.NamedBy AsciiIdent := by
  simp only [parseFile, lexText] at h
  split at h
  · rename_i ts hlex
    obtain ⟨c, hrun, -, -⟩ := runAll_eq_ok_iff.1 h
    -- the lexer reads identifier texts, and the hypothesis makes them ASCII
    have hgood : Cursor.Good { rest := ts, scope := {} } := by
      have hid := lex_identTexts hlex
      have has := hascii ts hlex
      exact (Cursor.good_mk _ _ _).2 fun x hx => ⟨hid x hx, has x hx⟩
    exact (run_of_triple (Grammar.file_spec_of (keeps_grammarFor ts)) hgood hrun).1
  · cases h

end Augment.Rust
