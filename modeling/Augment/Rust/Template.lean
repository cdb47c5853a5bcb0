import Augment.Rust.Lexer

/-!
# Code templates

Generated code is written as text in its printed form, one space between tokens, and read into
tokens by the lexer. Written that way the lexer gives every punctuation character the spacing it
prints with: `>>` stays one operator, `> >` two.

A template names the places where tokens from outside go in as holes: `@name` stands for the
tokens bound to `name`. A hole always follows a blank or an opening delimiter, so that no
punctuation character before it is read as joined to the `@`. Braced blocks are built with
`block` around the tokens of their body.
-/

namespace Augment.Rust

/-- The tokens that fill the holes of a template, by hole name. -/
abbrev Holes := List (String × TokenStream)

namespace Holes

mutual

/-- A token tree with the holes inside its groups filled. -/
def fillTree (h : Holes) : TokenTree → TokenTree
  | .group d ts o c => .group d (h.fill ts) o c
  | t => t

/-- A token stream with its holes filled: `@name` becomes the tokens bound to `name`, and a hole
with nothing bound to it disappears. -/
def fill (h : Holes) : TokenStream → TokenStream
  | [] => []
  | .punct '@' _ _ :: .ident name _ :: rest => ((h.lookup name).getD []) ++ h.fill rest
  | t :: rest => h.fillTree t :: h.fill rest

end

/-- The tokens of a piece of code in printed form, with its holes filled. A text that does not
lex gives no tokens; every template of the library lexes. -/
def code (h : Holes) (text : String) : TokenStream :=
  match lex text with
  | .ok ts => h.fill ts
  | .error _ => []

end Holes

/-- A block: the tokens in braces. -/
def block (body : TokenStream) : TokenStream :=
  [TokenTree.mkGroup .brace body]

end Augment.Rust
