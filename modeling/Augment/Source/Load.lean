import Augment.Source.Modules
import Augment.Files.Tree

/-!
# Reading a crate's module tree from files

A crate is read from its entry file. Every module's child modules are followed in the order they
are declared, depth first:

* an inline module (`mod m { ... }`) is part of its parent's file; its own child files are looked
  up in the directory `m` below its parent's, or in the directory its `path` attribute names;
* a module declared `mod m;` is read from the file its `path` attribute names, relative to the
  parent's directory, or else from `m.rs` or `m/mod.rs` there, whichever is a file first. A module
  with no such file is skipped. Its own children are looked up next to it when it was found
  through a `path` attribute or is a `mod.rs`, and in the directory `m` otherwise.

Every file is recorded when it has been read and parsed, so the recorded files are in reading
order. A file that cannot be read or does not parse stops the reading with its error.

Reading goes step by step (`loadStep`): a step reads the file of the first module still to add,
or adds that module to the tree and puts its child modules first among those still to add. The
steps need not come to an end: a module may name its own file again through a `path` attribute,
which makes the tree endless. A reading that has not ended after `2 * moduleLimit` steps fails
with `LoadError.endless`.
-/

namespace Augment.Source

open Augment.Rust
open Augment.Files

/-- Why a crate's module tree could not be read. -/
inductive LoadError where
  /-- A file could not be read. -/
  | io (path : String) (e : OsError)
  /-- A file does not parse. -/
  | parse (e : ParseError)
  /-- The reading did not end within `2 * moduleLimit` steps, as for a crate whose module names
  its own file again through a `path` attribute. -/
  | endless
  deriving DecidableEq, Repr

/-- The most modules a tree is read to. -/
def moduleLimit : Nat := 10000

/-- The text of a reading error. -/
def LoadError.message : LoadError → String
  | .io path e => "i/o error on " ++ path ++ ": " ++ e.message
  | .parse e => e.text
  | .endless =>
    "the module tree did not end within " ++ toString (2 * moduleLimit) ++ " reading steps"

/-- The value of the first `path = "..."` attribute among a module's attributes. -/
def pathAttribute (attrs : List Attribute) : Option String :=
  attrs.findSome? fun a => match a.content with
    | .nameValue p v =>
      if p.isIdent "path" then
        match v.kind with
        | .lit l => if l.kind == .str then some l.strValue else none
        | _ => none
      else none
    | _ => none

/-- The file of a module declared `mod name;` in a module whose child files are in `dir`. -/
def locate (t : FileTree) (dir name : String) (pathAttr : Option String) : Option String :=
  match pathAttr with
  | some p => if t.isFile (join dir p) then some (join dir p) else none
  | none => [join dir (name ++ ".rs"), join (join dir name) "mod.rs"].find? t.isFile

/-- A module still to be added to the tree. -/
inductive Pending where
  /-- A module whose items are known: its path, its file, the directory of its child files,
  and its items. -/
  | items (ns file dir : String) (items : List Item)
  /-- A module still to be read from a file. -/
  | onDisk (ns path dir : String)
  deriving Inhabited

/-- The modules to add for the child modules of the module `ns`, in order. -/
def childModules (t : FileTree) (ns file dir : String) (items : List Item) : List Pending :=
  items.filterMap fun i => match i with
    | .mod attrs ident content =>
      let name := unrawName ident
      let childNs := ns ++ "::" ++ name
      let pathAttr := pathAttribute attrs
      match content with
      | some inner => some (.items childNs file (join dir (pathAttr.getD name)) inner)
      | none => (locate t dir name pathAttr).map fun childFile =>
        let childDir :=
          if pathAttr.isSome || fileName? childFile == some "mod.rs" then (parent? childFile).getD ""
          else join dir name
        .onDisk childNs childFile childDir
    | _ => none

/-- A module tree as read: its modules in tree order and its files in reading order. -/
structure LoadedTree where
  /-- The modules. -/
  modules : List Module := []
  /-- The files read. -/
  files : List String := []
  deriving Inhabited

/-- The items of a source file. -/
def readItems (t : FileTree) (path : String) : Except LoadError (List Item) := do
  let text ← (t.read path).mapError (.io path)
  (parseFile text).mapError fun e => .parse (.ofSyntax path e)

/-- Where reading a module tree stands. -/
inductive LoadState where
  /-- Still reading: the modules still to add, first to last, and the tree so far. -/
  | reading (pending : List Pending) (acc : LoadedTree)
  /-- Done: the tree, or the error that stopped the reading. -/
  | done (result : Except LoadError LoadedTree)

/-- One step of reading: the first module still to add is read from its file, or added to the
tree with its child modules put before the others. -/
def loadStep (t : FileTree) : List Pending → LoadedTree → LoadState
  | [], acc => .done (.ok acc)
  | .onDisk ns path dir :: rest, acc =>
    match readItems t path with
    | .ok items => .reading (.items ns path dir items :: rest) { acc with files := acc.files ++ [path] }
    | .error e => .done (.error e)
  | .items ns file dir items :: rest, acc =>
    .reading (childModules t ns file dir items ++ rest)
      { acc with modules := acc.modules ++ [{ ns, file, items := ownItems items }] }

namespace LoadState

/-- The state after at most `n` more steps; a state that is done stays so. -/
def advance (t : FileTree) : Nat → LoadState → LoadState
  | 0, s => s
  | _ + 1, .done r => .done r
  | n + 1, .reading pending acc => advance t n (loadStep t pending acc)

/-- How a reading ended: with the tree or with the error that stopped it; a reading still going
on has not ended in the steps it was given. -/
def result : LoadState → Except LoadError LoadedTree
  | .reading _ _ => .error .endless
  | .done r => r

end LoadState

/-- Adds pending modules to a tree, first to last, a module's children right after it; fails with
`LoadError.endless` when that takes more than `fuel` steps. -/
def addModules (t : FileTree) (fuel : Nat) (pending : List Pending) (acc : LoadedTree) :
    Except LoadError LoadedTree :=
  ((LoadState.reading pending acc).advance t fuel).result

/-- The files that may hold the child modules among a module's items: for each `mod name;`, the
file its `path` attribute names, or `name.rs` and `name/mod.rs`. -/
def candidateFiles (dir : String) (items : List Item) : List String :=
  items.flatMap fun i => match i with
    | .mod attrs ident none =>
      let name := unrawName ident
      match pathAttribute attrs with
      | some p => [join dir p]
      | none => [join dir (name ++ ".rs"), join (join dir name) "mod.rs"]
    | _ => []

/-- The paths that reading pending modules looks at, first to last: every file read and every
candidate file of a module declared `mod name;`. A file that cannot be read or parsed ends the
reading. -/
def probesFrom (t : FileTree) : Nat → List Pending → List String → List String
  | 0, _, acc => acc
  | _, [], acc => acc
  | fuel + 1, .onDisk ns path dir :: rest, acc =>
    match readItems t path with
    | .ok items => probesFrom t fuel (.items ns path dir items :: rest) (acc ++ [path])
    | .error _ => acc ++ [path]
  | fuel + 1, .items ns file dir items :: rest, acc =>
    probesFrom t fuel (childModules t ns file dir items ++ rest) (acc ++ candidateFiles dir items)

/-- The paths that reading the module tree from `entry` looks at. A tree that holds every one of
them as the disk does is read exactly as the disk would be. -/
def probedPaths (t : FileTree) (entry : String) : List String :=
  probesFrom t (2 * moduleLimit) [.onDisk "" entry ((parent? entry).getD "")] []

/-- The module tree of the crate `crateName` whose entry file is `entry`, read in at most
`2 * moduleLimit` steps. -/
def loadTree (t : FileTree) (entry crateName : String) : Except LoadError LoadedTree :=
  addModules t (2 * moduleLimit) [.onDisk crateName entry ((parent? entry).getD "")] {}

end Augment.Source
