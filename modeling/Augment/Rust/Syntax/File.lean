import Augment.Rust.Syntax.Item
import Augment.Rust.Lexer

/-!
# Whole inputs

The grammar is built in levels: level `n + 1` is made of the category parsers, each calling
the categories of level `n`, and level `0` fails. An input of `k` token trees never nests
deeper than a small multiple of `k` levels, so `grammarFor` builds that many and no correct
input reaches the bottom.

The entry points read a whole input: a source file (its text), an item or a derive input (a
token stream), and the comma-separated lists inside an attribute.
-/

namespace Augment.Rust

open Parse

/-- The number of token trees in a stream, counting those inside groups. -/
def TokenStream.treeCount : TokenStream → Nat
  | [] => 0
  | .group _ inner _ _ :: rest => 1 + treeCount inner + treeCount rest
  | _ :: rest => 1 + treeCount rest

namespace Grammar

/-- The grammar that fails on every category: the bottom level. -/
def exhausted : Grammar :=
  let stop {α : Type} : Parse α := failHere "nesting too deep"
  { ty := fun _ => stop, angleArgs := stop, unary := fun _ => stop,
    exprFrom := fun _ _ _ => stop, stmtExpr := stop, pat := stop, genericParam := stop,
    stmts := stop, itemRest := fun _ _ => stop }

/-- The next level of the grammar, whose parsers call the categories of `g`. -/
def deeper (g : Grammar) : Grammar :=
  { ty := g.ambigTy, angleArgs := g.angleArgsPlain, unary := g.unaryPlain,
    exprFrom := g.exprFromPlain, stmtExpr := g.stmtExprPlain, pat := g.patPlain,
    genericParam := g.genericParamPlain, stmts := g.stmtsPlain, itemRest := g.itemRestPlain }

/-- `n` levels above `g`. -/
def raise (g : Grammar) : Nat → Grammar
  | 0 => g
  | n + 1 => raise (deeper g) n

/-- One item with its outer attributes. -/
def item (g : Grammar) : Parse (Item × TokenStream) := do
  let begin ← remaining
  let attrs ← g.outerAttrs
  g.itemRest begin attrs

/-- A derive input: outer attributes and a visibility, then a struct, an enum or a union. -/
def deriveInput (g : Grammar) : Parse TypeDecl := do
  let attrs ← g.outerAttrs
  let ahead ← match ← lookahead (do discard visibility; remaining) with
    | .ok r => pure r
    | .error e => throw e
  if ahead.startsWord "struct" then g.structDecl attrs
  else if ahead.startsWord "enum" then g.enumDecl attrs
  else if ahead.startsWord "union" then g.unionDecl attrs
  else expectedOneOfIn ahead ["`struct`", "`enum`", "`union`"]

/-- One element of an option list: a literal, unless it is `true` or `false` before `=`, or
attribute contents when an identifier or `::` and an identifier come first. -/
def nestedMeta (g : Grammar) : Parse NestedMeta := do
  let ts ← remaining
  if ts.startsLit && !(ts.startsLitOf .bool && (← peek2Op "=")) then return .lit (← lit)
  else if ts.startsAnyIdent || ((← peekOp "::") && (← peek3With TokenStream.startsAnyIdent)) then
    return .contents (← g.nestedMetaItem)
  else failHere "expected identifier or literal"

/-- A source file: inner attributes, then items to the end. -/
def file (g : Grammar) : Parse (List Item) := do
  discard g.innerAttrs
  many do
    if ← atEnd then return none
    return some (← g.item).1

end Grammar

/-- The grammar deep enough for an input of the given token trees. -/
def grammarFor (ts : TokenStream) : Grammar :=
  Grammar.raise Grammar.exhausted (4 * ts.treeCount + 16)

/-! ### Entry points -/

/-- The message of every lexical error. -/
def lexErrorMessage : String := "cannot parse string into token stream"

/-- Lexes a text, turning a lexical error into a syntax error at its position. -/
def lexText (text : String) : Except SyntaxError TokenStream :=
  match lex text with
  | .ok ts => .ok ts
  | .error p => .error ⟨p, lexErrorMessage⟩

/-- Whether the text after `#!` starts an inner attribute rather than a shebang line:
after blanks and comments comes `[`. -/
def startsInnerAttribute (rest : List Char) : Bool :=
  match (rest.drop (skipLen rest)) with
  | '[' :: _ => true
  | _ => false

/-- A source text with its byte order mark and shebang line removed; the line break after the
shebang is kept, so lines keep their numbers. -/
def stripFileHeader (text : String) : String :=
  let cs := match text.toList with
    | '\ufeff' :: rest => rest
    | cs => cs
  match cs with
  | '#' :: '!' :: rest =>
    if startsInnerAttribute rest then String.ofList cs
    else String.ofList (cs.dropWhile (· != '\n'))
  | _ => String.ofList cs

/-- Parses the items of a source file. -/
def parseFile (text : String) : Except SyntaxError (List Item) := do
  let ts ← lexText (stripFileHeader text)
  Parse.runAll (grammarFor ts).file ts

/-- Parses a text as one path. -/
def parsePath (text : String) : Except SyntaxError Path := do
  let ts ← lexText text
  Parse.runAll (grammarFor ts).path ts

/-- Parses a text as one type. -/
def parseType (text : String) : Except SyntaxError Ty := do
  let ts ← lexText text
  Parse.runAll (grammarFor ts).type ts

/-- Parses a token stream as one item; answers the item and its printed tokens. -/
def parseItem (ts : TokenStream) : Except SyntaxError (Item × TokenStream) :=
  Parse.runAll (grammarFor ts).item ts

/-- Parses the comma-separated attribute contents inside an attribute's delimiters. -/
def parseMetaList (ts : TokenStream) (scope : Pos) : Except SyntaxError (List Meta) :=
  Parse.runAll (commaList (grammarFor ts).nestedMetaItem) ts scope

/-- Parses a token stream as one derive input. -/
def parseDeriveInput (ts : TokenStream) : Except SyntaxError TypeDecl :=
  Parse.runAll (grammarFor ts).deriveInput ts

/-- Parses the comma-separated elements of an option list. -/
def parseNestedMetaList (ts : TokenStream) (scope : Pos) : Except SyntaxError (List NestedMeta) :=
  Parse.runAll (commaList (grammarFor ts).nestedMeta) ts scope

/-- Parses the comma-separated paths inside an attribute's delimiters. -/
def parsePathList (ts : TokenStream) (scope : Pos) : Except SyntaxError (List Path) :=
  Parse.runAll (commaList (grammarFor ts).path) ts scope

end Augment.Rust
