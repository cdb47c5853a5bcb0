import Augment.Marker
import Augment.Rust.Syntax.Tree
import Augment.Text.Chars

/-!
# Imports of a module

Just enough of path resolution to tell which marker an attribute names and which type an impl
block is for: `use` declarations (with renames, groups and globs), `extern crate` renames, and the
`crate`, `self` and `super` prefixes.

A module's imports map each imported local name to the full path it stands for, and list the
modules imported whole with `*`. Declarations are read in order, so a `use` may build on a name
an earlier one imported; a later import of a name replaces an earlier one.

* `resolveMarker` gives the identity of a marker path: a path from the root (`::a::b`) is taken
  as written; a single name not imported by name may come from a glob of the marker crate's
  export module; anything else is expanded through the imports.
* `resolveLocal` gives the full path of a type named in the module: a single name prefers a type
  declared in the module itself, then one that a glob supplies; a longer path that names no
  declared type but reads as a path below the module is taken that way.
-/

namespace Augment.Source

open Augment.Rust
open Augment.Text

/-- The parent of a module path; the crate root is its own parent. -/
def parentPath (ns : String) : String :=
  match splitLastText? ns "::" with
  | some (parent, _) => parent
  | none => ns

/-- What one module imports. -/
structure Imports where
  /-- The crate's name, which `crate` stands for. -/
  crateName : String
  /-- The module's own path, which `self` stands for. -/
  ns : String
  /-- Each imported local name with the full path it stands for. -/
  names : List (String × String) := []
  /-- The full paths of the modules imported with `*`, in order. -/
  globs : List String := []
  deriving DecidableEq, Repr, Inhabited

namespace Imports

/-- The imports with a name bound to a path, replacing an earlier binding of the name. -/
def bind (im : Imports) (name path : String) : Imports :=
  { im with names := (im.names.filter (·.1 != name)) ++ [(name, path)] }

/-- The path a local name is imported as, if it is imported by name. -/
def lookupName (im : Imports) (name : String) : Option String :=
  im.names.lookup name

/-- A path's segments read from this module: the first through `crate`, `self`, `super` or the
imported names, each later `super` going up one level. -/
def expand (im : Imports) : List String → String
  | [] => ""
  | first :: rest =>
    let head :=
      if first == "crate" then im.crateName
      else if first == "self" then im.ns
      else if first == "super" then parentPath im.ns
      else (im.lookupName first).getD first
    rest.foldl (fun acc seg => if seg == "super" then parentPath acc else acc ++ "::" ++ seg) head

/-- The full path of a `use` path: as written after a leading `::`, else expanded. -/
def qualify (im : Imports) (segments : List String) (absolute : Bool) : String :=
  if absolute then "::".intercalate segments else im.expand segments

/-- The imports after one `use` tree under the given path prefix. -/
def addTree (absolute : Bool) : Imports → UseTree → List String → Imports
  | im, .path ident tree, pre => addTree absolute im tree (pre ++ [ident])
  | im, .name ident, pre =>
    if ident == "self" then
      match pre.getLast? with
      | some last => im.bind last (im.qualify pre absolute)
      | none => im
    else im.bind ident (im.qualify (pre ++ [ident]) absolute)
  | im, .rename ident rename, pre =>
    let full := if ident == "self" then pre else pre ++ [ident]
    im.bind rename (im.qualify full absolute)
  | im, .glob, pre => { im with globs := im.globs ++ [im.qualify pre absolute] }
  | im, .group items, pre => addTrees absolute im items pre
where
  /-- The imports after each tree of a group in turn, all under the same path prefix. -/
  addTrees (absolute : Bool) : Imports → List UseTree → List String → Imports
    | im, [], _ => im
    | im, t :: ts, pre => addTrees absolute (addTree absolute im t pre) ts pre

/-- The imports after one item: a `use` declaration or a renaming `extern crate`. -/
def addItem (im : Imports) : Item → Imports
  | .use leadingColon tree => addTree leadingColon im tree []
  | .externCrate ident (some rename) => im.bind rename ident
  | _ => im

/-- The imports declared directly among a module's items. -/
def collect (items : List Item) (crateName ns : String) : Imports :=
  items.foldl addItem { crateName, ns }

/-- The identity of a marker named by a path in this module. -/
def resolveMarker (im : Imports) (path : Path) (markers : MarkerSet) : MarkerPath :=
  let segments := path.idents
  let resolved :=
    if path.leadingColon then "::".intercalate segments
    else match segments with
      | [name] =>
        if (im.lookupName name).isSome then im.expand segments
        else match im.globs.find? (fun g => markers.isExportModule (.ofString g) && markers.exports name) with
          | some g => g ++ "::" ++ name
          | none => name
      | _ => im.expand segments
  markers.canonicalize (.ofString resolved)

/-- The full path of a type named by a path in this module, given the full paths of all types
declared in the crate. -/
def resolveLocal (im : Imports) (path : Path) (declared : List String) : String :=
  let segments := path.idents
  let here := im.ns ++ "::" ++ "::".intercalate segments
  match segments with
  | [name] =>
    if (im.lookupName name).isNone then
      if declared.contains here then here
      else ((im.globs.map (· ++ "::" ++ name)).find? declared.contains).getD here
    else
      let expanded := im.expand segments
      if !declared.contains expanded && declared.contains here then here else expanded
  | _ =>
    let expanded := im.expand segments
    if !declared.contains expanded && declared.contains here then here else expanded

/-- A text that determines the imports: equal texts for equal imports. -/
def fingerprint (im : Imports) : String :=
  let names := im.names.mergeSort fun a b => decide (a.1 ≤ b.1)
  im.crateName ++ "\n" ++ im.ns ++ "\n" ++
    "\n".intercalate (names.map fun (k, v) => k ++ " = " ++ v) ++ "\n*\n" ++ "\n".intercalate im.globs

end Imports

end Augment.Source
