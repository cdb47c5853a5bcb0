import Augment.Rust.Syntax.Tree

/-!
# The grammar's recursion

Types contain expressions (array lengths), expressions contain blocks, blocks contain items,
and items contain types again. The parsers of these categories are gathered in one record, a
`Grammar`, and every parser that needs another category takes the record and calls through it.
The record itself is built level by level (`Augment.Rust.grammar`), each level calling the one
below, so that every parser is an ordinary terminating function: a parse that nests deeper
than the levels built simply fails.
-/

namespace Augment.Rust

/-- The parsers of the recursive syntactic categories. -/
structure Grammar where
  /-- A type; with `allowPlus`, trait bounds joined by `+` may follow a path. -/
  ty : Bool → Parse Ty
  /-- Generic arguments in angle brackets, with an optional `::` before them; answers their
  printed tokens. -/
  angleArgs : Parse TokenStream
  /-- A prefix-operator expression or a postfix chain; `allowStruct` admits struct literals. -/
  unary : Bool → Parse Expr
  /-- Continues an expression from its left operand with the operators that bind at least as
  tightly as the given strength. -/
  exprFrom : Expr → Bool → Prec → Parse Expr
  /-- An expression in statement position: one that starts with a block-like expression ends
  with it, unless a method call or `?` follows. -/
  stmtExpr : Parse Expr
  /-- One pattern, without alternatives at the top. -/
  pat : Parse Pat
  /-- One generic parameter with its outer attributes; answers whether it is a lifetime, and
  its printed tokens. -/
  genericParam : Parse (Bool × TokenStream)
  /-- The statements of a block, to the end of the group. -/
  stmts : Parse TokenStream
  /-- The rest of an item after its outer attributes, given the input before them; answers
  the item and its printed tokens. -/
  itemRest : TokenStream → List Attribute → Parse (Item × TokenStream)

namespace Grammar

/-- An expression. -/
def expr (g : Grammar) : Parse Expr := do
  let lhs ← g.unary true
  g.exprFrom lhs true .jump

/-- An expression in which a brace ends the expression rather than opening a struct literal
(the condition of `if`, `while`, `match`). -/
def exprNoStruct (g : Grammar) : Parse Expr := do
  let lhs ← g.unary false
  g.exprFrom lhs false .jump

/-- A type, with `+` bounds allowed. -/
def type (g : Grammar) : Parse Ty := g.ty true

end Grammar

end Augment.Rust
