import Augment.Expand.Error
import Augment.Rust.Syntax.File

/-!
# The singleton marker at compile time

The singleton attribute takes no arguments and marks one struct, enum or union without generic
parameters. Such an item expands to itself, printed from its syntax; the members it stands for
are generated separately. Anything else expands to one compile error: arguments, an input that
is not exactly one item, an item of another kind, or generic parameters.
-/

namespace Augment.Expand

open Augment.Rust

/-- The item a singleton marker may stand on, printed; or why it may not. -/
def checkSingleton (args input : TokenStream) : Except String TokenStream := do
  unless args.isEmpty do throw "`#[singleton]` takes no arguments"
  let (item, _) ← (parseItem input).mapError (·.message)
  match item with
  | .decl d =>
    if d.generics.params.isEmpty then return d.tokens
    else throw "`#[singleton]` types cannot have generic parameters"
  | _ => throw "`#[singleton]` can only be applied to a struct, enum or union"

/-- What the singleton attribute expands to. -/
def expandSingleton (args input : TokenStream) : TokenStream :=
  match checkSingleton args input with
  | .ok ts => ts
  | .error m => compileErrorTokens m

end Augment.Expand
