/-!
# Token trees

Rust source as the token trees a procedural macro sees: identifiers, punctuation characters,
literals, and groups in parentheses, brackets or braces. Every token remembers where it starts;
a group also remembers where its closing delimiter stands, since a parse that runs out of tokens
inside a group reports the error there.

A punctuation character is *joint* when the next token is a punctuation character of the same
operator (`:` in `::`), and *alone* otherwise.

## Printing

A token stream prints with one space between tokens, and none after a joint punctuation
character. A group prints its delimiters around its stream; braces get a space inside them on
each side, so `{}` prints as `{ }`. This is the text every generated fragment is compared by.
-/

namespace Augment.Rust

/-- A source position: the line, from 1, and the column, in characters from 0. -/
structure Pos where
  /-- The line, counted from 1. -/
  line : Nat := 1
  /-- The column, in characters from 0. -/
  column : Nat := 0
  deriving DecidableEq, Repr, Inhabited

/-- The position that generated tokens carry: the start of the first line. -/
def Pos.callSite : Pos := {}

/-- The delimiters of a group. -/
inductive Delimiter where
  | paren
  | bracket
  | brace
  /-- An invisible group. -/
  | none
  deriving DecidableEq, Repr, Inhabited

/-- Whether a punctuation character joins the next one into one operator. -/
inductive Spacing where
  | alone
  | joint
  deriving DecidableEq, Repr, Inhabited

/-- A token tree. -/
inductive TokenTree where
  /-- A delimited group, with the positions of its opening and closing delimiters. -/
  | group (delim : Delimiter) (stream : List TokenTree) (openPos closePos : Pos)
  /-- An identifier; a raw identifier keeps its `r#` prefix. -/
  | ident (text : String) (pos : Pos)
  /-- A punctuation character. -/
  | punct (ch : Char) (spacing : Spacing) (pos : Pos)
  /-- A literal, as written. -/
  | literal (text : String) (pos : Pos)
  deriving Repr, Inhabited

/-- A sequence of token trees. -/
abbrev TokenStream := List TokenTree

namespace TokenTree

/-- Where the token starts. -/
def pos : TokenTree → Pos
  | .group _ _ p _ | .ident _ p | .punct _ _ p | .literal _ p => p

/-- Whether the token is a punctuation character joined to the next one. -/
def isJoint : TokenTree → Bool
  | .punct _ .joint _ => true
  | _ => false

/-- A generated identifier. -/
def mkIdent (text : String) : TokenTree := .ident text Pos.callSite

/-- A generated punctuation character. -/
def mkPunct (ch : Char) (spacing : Spacing := .alone) : TokenTree := .punct ch spacing Pos.callSite

/-- A generated literal. -/
def mkLiteral (text : String) : TokenTree := .literal text Pos.callSite

/-- A generated group. -/
def mkGroup (delim : Delimiter) (stream : TokenStream) : TokenTree :=
  .group delim stream Pos.callSite Pos.callSite

end TokenTree

/-- The opening text of a delimiter. -/
def Delimiter.openText : Delimiter → String
  | .paren => "("
  | .bracket => "["
  | .brace => "\x7b "
  | .none => ""

/-- The closing text of a delimiter. -/
def Delimiter.closeText : Delimiter → String
  | .paren => ")"
  | .bracket => "]"
  | .brace => "\x7d"
  | .none => ""

mutual

/-- The printed text of a token tree. -/
def TokenTree.print : TokenTree → String
  | .group d ts _ _ =>
    d.openText ++ printStream ts ++
      (if d == .brace && !ts.isEmpty then " " else "") ++ d.closeText
  | .ident s _ => s
  | .punct c _ _ => c.toString
  | .literal s _ => s

/-- The printed text of a token stream. -/
def printStream : TokenStream → String
  | [] => ""
  | t :: rest => t.print ++ printAfter t.isJoint rest

/-- The printed text of the tokens after one that is joint or not. -/
def printAfter (joint : Bool) : TokenStream → String
  | [] => ""
  | t :: rest => (if joint then "" else " ") ++ t.print ++ printAfter t.isJoint rest

end

end Augment.Rust
