import Augment.Rust.Lexer
import Augment.Rust.Syntax.Cursor
import Augment.Text.Chars

/-!
# Identifiers for generated code

A generated member names things by strings that come from the user's code: field names, exposed
property names, crate names. Two ways turn such a string into an identifier token.

* `Ident.ofName` takes a name as it would be written: a name that reads as one plain identifier
  stays as it is, and anything else (a keyword above all) is written raw, `r#type`. A leading
  `r#` of the name itself is dropped first, so `r#type` and `type` give the same token.
* `Ident.exact` takes a text that must already be an identifier; keywords are allowed, and a
  leading `r#` asks for the raw form.

Both refuse a text that no identifier spells; `IdentError` says why, in the words of the
token library whose refusal stops generation.
-/

namespace Augment.Rust

open Augment.Text

/-- Why no identifier token could be made from a text. -/
inductive IdentError where
  /-- The text is empty. -/
  | empty
  /-- The text is made of ASCII digits only. -/
  | number
  /-- The text has a character that no identifier may hold at its place. -/
  | invalid (text : String)
  /-- The text is a word that cannot be written raw (`self`, `crate`, ...). -/
  | notRaw (text : String)
  deriving DecidableEq, Repr

/-- The message that reports an identifier error. -/
def IdentError.message : IdentError → String
  | .empty => "Ident is not allowed to be empty; use Option<Ident>"
  | .number => "Ident cannot be a number; use Literal instead"
  | .invalid s => debugQuoted s ++ " is not a valid Ident"
  | .notRaw s => "`r#" ++ s ++ "` cannot be a raw identifier"

namespace Ident

/-- Whether every character of a text is an ASCII digit (true of the empty text). -/
def isDigits (s : String) : Bool :=
  s.toList.all fun c => '0' ≤ c && c ≤ '9'

/-- Whether a text is spelled like an identifier: a start character, then continue characters. -/
def isSpelled (s : String) : Bool :=
  match s.toList with
  | c :: rest => isIdentStart c && rest.all isIdentContinue
  | [] => false

/-- Checks that a text can be an identifier, keywords included. -/
def check (s : String) : Except IdentError Unit :=
  if s.isEmpty then .error .empty
  else if isDigits s then .error .number
  else if !isSpelled s then .error (.invalid s)
  else .ok ()

/-- The raw identifier `r#s`, when `s` can be one. -/
def raw (s : String) : Except IdentError TokenTree := do
  check s
  if rawForbidden.contains s then throw (.notRaw s)
  return TokenTree.mkIdent ("r#" ++ s)

/-- The identifier token spelled exactly by a text; a leading `r#` asks for the raw form. -/
def exact (s : String) : Except IdentError TokenTree :=
  match dropPrefix? s "r#" with
  | some rest => raw rest
  | none => do
    check s
    return TokenTree.mkIdent s

/-- The identifier token for a name: the name itself when it reads as one plain identifier,
otherwise its raw form. A leading `r#` of the name is dropped first. -/
def ofName (name : String) : Except IdentError TokenTree :=
  let bare := dropPrefixIfAny name "r#"
  match lex bare with
  | .ok [.ident s _] => if acceptsAsIdent s then .ok (TokenTree.mkIdent s) else raw bare
  | _ => raw bare

end Ident

end Augment.Rust
