import Augment.Options
import Augment.Toml.Decode
import Augment.Toml.Report
import Augment.Rust.Lexer
import Augment.Rust.Syntax.Cursor

/-!
# Configuration

A project configures generation in `graft.toml`: which marker crate its attributes come from, the
crate name its namespaces start with, its entry file, whether error diagnostics fail the build,
and the settings of each pattern. Every setting is optional, and an unknown key is an error.

A configuration is valid when the crate names, with dashes read as underscores, and the accessor
name are plain identifiers: a letter or underscore, then letters, digits and underscores, and not
a keyword.
-/

namespace Augment

open Augment.Toml

/-- The name of the configuration file. -/
def configFileName : String := "graft.toml"

/-- The settings of the singleton pattern, as written. -/
structure SingletonConfig where
  /-- The accessor's name. -/
  accessor : Option String := none
  /-- How the accessor creates the instance. -/
  init : InstanceInit := .checkThenCreate
  /-- Whether to implement the singleton trait. -/
  implementTrait : Option Bool := none
  deriving DecidableEq, Repr, Inhabited

/-- The settings of the change-notification pattern, as written. -/
structure NotifyConfig where
  /-- Whether to implement the change-notification trait. -/
  implementTrait : Option Bool := none
  deriving DecidableEq, Repr, Inhabited

/-- A configuration file's settings, as written. -/
structure Config where
  /-- The crate the markers come from. -/
  markerCrate : Option String := none
  /-- The crate name that namespaces start with. -/
  targetCrate : Option String := none
  /-- The entry file, relative to the project directory. -/
  entry : Option String := none
  /-- Whether error diagnostics fail the build. -/
  denyErrors : Bool := false
  /-- The singleton settings. -/
  singleton : SingletonConfig := {}
  /-- The change-notification settings. -/
  notify : NotifyConfig := {}
  deriving DecidableEq, Repr, Inhabited

/-- Why a configuration could not be used. -/
inductive ConfigError where
  /-- The file at `path` does not read as a configuration; `text` is its text. -/
  | parse (path text : String) (e : TomlError)
  /-- A name setting is not a plain identifier. -/
  | invalidIdent (key value : String)
  /-- A manifest has no package name. -/
  | missingPackage (path : String)
  /-- The file at `path` could not be read. -/
  | read (path reason : String)
  deriving DecidableEq, Repr

/-- The message that reports a configuration error. -/
def ConfigError.message : ConfigError → String
  | .parse path text e => "failed to parse " ++ path ++ ": " ++ e.report text
  | .invalidIdent key value => "`" ++ key ++ "` must be a plain identifier, got `" ++ value ++ "`"
  | .missingPackage path => path ++ " has no `[package] name`"
  | .read path reason => "failed to read " ++ path ++ ": " ++ reason

namespace Config

/-! ### Reading -/

/-- The choices of instance initialisation, by name. -/
def initChoices : List (String × InstanceInit) :=
  [("check-then-create", .checkThenCreate), ("once", .once)]

/-- The singleton settings of a table. -/
def decodeSingleton : Value → Span → Except TomlError SingletonConfig :=
  decodeRecord "SingletonConfig" ["accessor", "init", "implement_trait"] {}
    fun c k v vs => match k with
      | "accessor" => do return { c with accessor := some (← decodeString "a string" v vs) }
      | "init" => do return { c with init := ← decodeChoice initChoices v vs }
      | _ => do return { c with implementTrait := some (← decodeBool v vs) }

/-- The change-notification settings of a table. -/
def decodeNotify : Value → Span → Except TomlError NotifyConfig :=
  decodeRecord "NotifyConfig" ["implement_trait"] {}
    fun c _ v vs => do return { c with implementTrait := some (← decodeBool v vs) }

/-- The settings of a document's root table. -/
def decode : Value → Span → Except TomlError Config :=
  decodeRecord "Config"
    ["marker_crate", "target_crate", "entry", "deny_errors", "singleton", "notify"] {}
    fun c k v vs => match k with
      | "marker_crate" => do return { c with markerCrate := some (← decodeString "a string" v vs) }
      | "target_crate" => do return { c with targetCrate := some (← decodeString "a string" v vs) }
      | "entry" => do return { c with entry := some (← decodeString "path string" v vs) }
      | "deny_errors" => do return { c with denyErrors := ← decodeBool v vs }
      | "singleton" => do return { c with singleton := ← decodeSingleton v vs }
      | _ => do return { c with notify := ← decodeNotify v vs }

/-! ### Checking -/

/-- Whether a name is a plain identifier: a letter or underscore, then letters, digits and
underscores, reading as one identifier that is not a keyword. -/
def isPlainIdent (s : String) : Bool :=
  (match s.toList with
    | c :: _ => Text.isAlphabetic c || c == '_'
    | [] => false) &&
  s.toList.all (fun c => Text.isAlphanumeric c || c == '_') &&
  match Rust.lex s with
  | .ok [.ident t _] => Rust.acceptsAsIdent t
  | _ => false

/-- Checks one name setting; crate names may use dashes for underscores. -/
def checkIdent (key : String) (value : Option String) (crateName : Bool) :
    Except ConfigError Unit :=
  match value with
  | none => .ok ()
  | some v =>
    let normalized := if crateName then Text.replaceText v "-" "_" else v
    if isPlainIdent normalized then .ok () else .error (.invalidIdent key v)

/-- Checks the name settings, in order. -/
def validate (c : Config) : Except ConfigError Unit := do
  checkIdent "marker_crate" c.markerCrate true
  checkIdent "target_crate" c.targetCrate true
  checkIdent "singleton.accessor" c.singleton.accessor false

/-- Reads and checks the configuration file at `path` with the given text. -/
def parse (path text : String) : Except ConfigError Config := do
  let doc ← (readDocument text).mapError (.parse path text)
  let c ← (decode doc ⟨0, 0⟩).mapError (.parse path text)
  c.validate
  return c

/-! ### Using -/

/-- The crate name that namespaces start with, for a package of the given name. -/
def crateName (c : Config) (package : String) : String :=
  crateNameFor c.targetCrate package

/-- The generation options the configuration asks for. -/
def options (c : Config) : Options :=
  { markers := MarkerSet.ofCrate (c.markerCrate.getD defaultMarkerCrate),
    singleton := { accessor := c.singleton.accessor.getD "instance", init := c.singleton.init,
                   implementTrait := c.singleton.implementTrait.getD true },
    notify := { implementTrait := c.notify.implementTrait.getD true } }

/-- Whether the configuration sets nothing. -/
def isDefault (c : Config) : Bool :=
  c == {}

end Config

end Augment
