import Augment.Rust.Syntax.File
import Augment.Text.Chars

/-!
# Module trees

A crate's modules in tree order: the root first, then each child module followed by its own
children, depth first. Each module has its path (the crate name, then the module names, joined by
`::`; a raw module name loses its `r#`), the file it was read from, and its own items, which
exclude its child modules.

Read from one source text, only inline modules (`mod m { ... }`) are followed; a module in a file
of its own (`mod m;`) is skipped.
-/

namespace Augment.Source

open Augment.Rust
open Augment.Text

/-- One module of a crate. -/
structure Module where
  /-- The module's path. -/
  ns : String
  /-- The file the module was read from. -/
  file : String
  /-- The module's own items, child modules excluded. -/
  items : List Item
  deriving Repr, Inhabited

/-- Whether an item declares a module. -/
def Item.isMod : Item → Bool
  | .mod _ _ _ => true
  | _ => false

/-- The items of a module other than its child modules. -/
def ownItems (items : List Item) : List Item :=
  items.filter fun i => !Item.isMod i

/-- A module name as it appears in paths: without a raw prefix. -/
def unrawName (name : String) : String :=
  dropPrefixIfAny name "r#"

/-- The inline child modules among the items of the module `ns`, each followed by its own
children. -/
def inlineChildren (ns file : String) : List Item → List Module
  | [] => []
  | .mod _ ident (some content) :: rest =>
    let child := ns ++ "::" ++ unrawName ident
    ({ ns := child, file, items := ownItems content } :: inlineChildren child file content) ++
      inlineChildren ns file rest
  | _ :: rest => inlineChildren ns file rest

/-- The module tree of one source file, following inline modules only. -/
def inlineModules (crateName file : String) (items : List Item) : List Module :=
  { ns := crateName, file, items := ownItems items } :: inlineChildren crateName file items

/-- A source file that does not parse: where, and why. -/
structure ParseError where
  /-- The file. -/
  file : String
  /-- The line, from 1. -/
  line : Nat
  /-- The column, in characters from 1. -/
  column : Nat
  /-- What is wrong. -/
  message : String
  deriving DecidableEq, Repr

/-- The text of a parse error: `file:line:column: message`. -/
def ParseError.text (e : ParseError) : String :=
  e.file ++ ":" ++ toString e.line ++ ":" ++ toString e.column ++ ": " ++ e.message

/-- The parse error of a syntax error in a file. -/
def ParseError.ofSyntax (file : String) (e : SyntaxError) : ParseError :=
  { file, line := e.pos.line, column := e.pos.column + 1, message := e.message }

/-- The module tree of one source text, following inline modules only. -/
def modulesOfSource (file text crateName : String) : Except ParseError (List Module) :=
  match parseFile text with
  | .ok items => .ok (inlineModules crateName file items)
  | .error e => .error (.ofSyntax file e)

end Augment.Source
