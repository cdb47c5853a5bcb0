import Augment.Config
import Augment.Generator
import Augment.Source.Load
import Augment.Source.Index

/-!
# Projects

A project is a crate directory with its package name and its configuration. Found from its
directory alone, the package name comes from the manifest `Cargo.toml`, whose `[package]` table
must give a string `name`; the configuration comes from `graft.toml` next to it, and a missing
configuration file means the defaults.

The crate's module tree is read from its entry file: the configured entry, else `src/lib.rs` when
that exists, else `src/main.rs`. Locations in the crate's model are relative to the project
directory.
-/

namespace Augment

open Augment.Files
open Augment.Source
open Augment.Toml

/-- Why a project could not be checked or built. -/
inductive ProjectError where
  /-- The manifest or the configuration is unusable. -/
  | config (e : ConfigError)
  /-- Error diagnostics were reported and the configuration denies them. -/
  | denied (errors : Nat)
  /-- Generation failed. -/
  | generate (e : GenerationError)
  /-- A file operation failed. -/
  | io (path : String) (e : OsError)
  /-- A build setting is missing from the environment. -/
  | missingEnv (name : String)
  /-- A source file does not parse. -/
  | parse (e : ParseError)
  /-- The crate's module tree did not end (`LoadError.endless`). -/
  | endless
  deriving DecidableEq, Repr

/-- The text of a project error. -/
def ProjectError.message : ProjectError → String
  | .config e => e.message
  | .denied n => toString n ++ " error diagnostic(s) reported and `deny_errors` is set"
  | .generate e => e.message
  | .io path e => "i/o error on " ++ path ++ ": " ++ e.message
  | .missingEnv name => "environment variable `" ++ name ++ "` is not set"
  | .parse e => e.text
  | .endless => LoadError.endless.message

/-- The project error of a module tree that could not be read. -/
def ProjectError.ofLoad : LoadError → ProjectError
  | .io path e => .io path e
  | .parse e => .parse e
  | .endless => .endless

/-- The name of a project's manifest. -/
def manifestFileName : String := "Cargo.toml"

/-- The package name a manifest document declares. -/
def packageName? (doc : Value) : Option String :=
  match (doc.get? "package").bind (·.get? "name") with
  | some (.string s) => some s
  | _ => none

/-- The package name declared by the manifest in a directory. -/
def readPackageName (t : FileTree) (dir : String) : Except ConfigError String := do
  let path := join dir manifestFileName
  let text ← (t.read path).mapError fun e => .read path e.message
  let doc ← (readDocument text).mapError (.parse path text)
  (checkAny doc ⟨0, 0⟩).mapError (.parse path text)
  match packageName? doc with
  | some name => return name
  | none => throw (.missingPackage path)

/-- The configuration in a directory; the defaults when it has no configuration file. -/
def loadConfig (t : FileTree) (dir : String) : Except ConfigError Config :=
  let path := join dir configFileName
  match t.read path with
  | .ok text => Config.parse path text
  | .error .notFound => .ok {}
  | .error e => .error (.read path e.message)

/-- A crate directory with its package name and configuration. -/
structure Project where
  /-- The crate directory. -/
  dir : String
  /-- The package name. -/
  packageName : String
  /-- The configuration. -/
  config : Config
  deriving Repr

/-- A crate as read: its module tree and its symbol model. -/
structure Crate where
  /-- The modules and the files read. -/
  tree : LoadedTree
  /-- The symbol model. -/
  index : CrateIndex

namespace Project

/-- The project in a directory, with a known package name. -/
def openAt (t : FileTree) (dir packageName : String) : Except ConfigError Project := do
  return { dir, packageName, config := ← loadConfig t dir }

/-- The project in a directory, its package name read from its manifest. -/
def discover (t : FileTree) (dir : String) : Except ConfigError Project := do
  openAt t dir (← readPackageName t dir)

/-- The crate name that namespaces start with. -/
def crateName (p : Project) : String :=
  p.config.crateName p.packageName

/-- The generation options. -/
def options (p : Project) : Options :=
  p.config.options

/-- The entry file of the crate. -/
def entry (t : FileTree) (p : Project) : String :=
  match p.config.entry with
  | some e => join p.dir e
  | none =>
    let lib := join p.dir "src/lib.rs"
    if t.pathExists lib then lib else join p.dir "src/main.rs"

/-- Reads the crate and builds its model. -/
def load (t : FileTree) (p : Project) : Except ProjectError Crate := do
  let tree ← (loadTree t (p.entry t) p.crateName).mapError .ofLoad
  return { tree, index := CrateIndex.build tree.modules p.options.markers p.dir }

/-- One generation pass over the crate, with a fresh generator. -/
def generate (p : Project) (c : Crate) : Except ProjectError PassOutput :=
  ((Generator.ofOptions p.options).generate c.index.model false).2.mapError .generate

end Project

/-- What checking a project finds. -/
structure CheckResult where
  /-- The crate name. -/
  crateName : String
  /-- The crate's module paths, in tree order. -/
  namespaces : List String
  /-- The files read, relative to the project directory, in reading order. -/
  files : List String
  /-- Whether error diagnostics fail the build. -/
  denyErrors : Bool
  /-- The generated files, diagnostics and counts. -/
  output : PassOutput

/-- Finds the project in a directory, reads its crate and runs one generation pass. -/
def checkProject (t : FileTree) (dir : String) : Except ProjectError CheckResult := do
  let p ← (Project.discover t dir).mapError .config
  let c ← p.load t
  let output ← p.generate c
  return { crateName := p.crateName, namespaces := c.index.namespaces,
           files := c.tree.files.map (relativeTo · dir), denyErrors := p.config.denyErrors, output }

end Augment
