import Augment.Rust.Token
import Augment.Text.Quoted
import Augment.Text.Similarity

/-!
# Errors of marker expansion

A marker that is misused expands to compile errors instead of code: one invocation of the
standard `compile_error!` macro per error, `:: core :: compile_error ! { "message" }`, in the
order the errors were found.

The messages of option errors say what was wrong:

* `Unknown field: `x``, then `. Did you mean `y`?` when a known option is similar enough, or else
  the known options, `. Available values: `a`, `b``;
* `Duplicate field `x``, `Unknown value: `v``, `Unexpected type `int``,
  `Unexpected meta-item format `list``;
* `Unsupported shape `enum`. Expected struct with named fields.` for a declaration of the wrong
  kind or with fields of the wrong kind.
-/

namespace Augment.Expand

open Augment.Rust

/-- Why a marker or one of its options was rejected. -/
inductive MarkerError where
  /-- A message of its own. -/
  | custom (message : String)
  /-- An option given twice. -/
  | duplicateField (name : String)
  /-- An option that does not exist, with the known ones. -/
  | unknownField (name : String) (known : List String)
  /-- A declaration of a shape the marker does not support. -/
  | unsupportedShape (observed expected : String)
  /-- An option written in a form it does not take. -/
  | unexpectedFormat (format : String)
  /-- An option value of the wrong type. -/
  | unexpectedType (ty : String)
  /-- An option value of the right type that means nothing. -/
  | unknownValue (value : String)
  deriving DecidableEq, Repr

/-- The suffix of an unknown option's message: a suggestion, or the known options when there
are fewer than ten. -/
def unknownFieldHint (name : String) (known : List String) : String :=
  match Text.closestName name known with
  | some s => ". Did you mean `" ++ s ++ "`?"
  | none =>
    if !known.isEmpty && known.length < 10 then
      ". Available values: " ++ ", ".intercalate (known.map fun k => "`" ++ k ++ "`")
    else ""

/-- The message of an error. -/
def MarkerError.message : MarkerError → String
  | .custom m => m
  | .duplicateField n => "Duplicate field `" ++ n ++ "`"
  | .unknownField n known => "Unknown field: `" ++ n ++ "`" ++ unknownFieldHint n known
  | .unsupportedShape o e => "Unsupported shape `" ++ o ++ "`. Expected " ++ e ++ "."
  | .unexpectedFormat f => "Unexpected meta-item format `" ++ f ++ "`"
  | .unexpectedType t => "Unexpected type `" ++ t ++ "`"
  | .unknownValue v => "Unknown value: `" ++ v ++ "`"

/-- The tokens that report one error at compile time. -/
def compileErrorTokens (message : String) : TokenStream :=
  [TokenTree.mkPunct ':' .joint, TokenTree.mkPunct ':', TokenTree.mkIdent "core",
   TokenTree.mkPunct ':' .joint, TokenTree.mkPunct ':', TokenTree.mkIdent "compile_error",
   TokenTree.mkPunct '!',
   TokenTree.mkGroup .brace [TokenTree.mkLiteral (Text.stringLiteralText message)]]

/-- The tokens that report errors, in order. -/
def compileErrors (messages : List String) : TokenStream :=
  messages.flatMap compileErrorTokens

end Augment.Expand
