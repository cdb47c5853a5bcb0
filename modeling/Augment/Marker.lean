import Augment.Text.Chars

/-!
# Markers

A marker is an attribute that asks for generated members: `singleton` on a type, and
`notify_changed` on a field of a type that derives `NotifyChanged`. This module holds the words
for them.

* `MarkerPath`: a `::`-separated path, stored without blanks and without leading `::`, so that
  `:: graft :: singleton` and `graft::singleton` are one path.
* `ArgValue` and `Marker`: one application of a marker, with its named arguments in written
  order; the first argument of a name is the one that counts.
* `MarkerSet`: the identities of the markers exported by one marker crate, and the rules that
  fold the crate's `prelude` re-exports onto the crate root.
-/

namespace Augment

open Augment.Text

/-! ### Paths -/

/-- A marker path, normalised: no blank anywhere and no leading `::`. -/
structure MarkerPath where
  /-- The normalised text of the path. -/
  text : String
  deriving DecidableEq, Hashable, Repr, Inhabited

/-- The characters after all leading repetitions of `::`. -/
def dropLeadingColons : List Char → List Char
  | ':' :: ':' :: rest => dropLeadingColons rest
  | cs => cs

/-- Normalises a written path: drops every blank, then every leading `::`. -/
def MarkerPath.ofString (s : String) : MarkerPath :=
  ⟨String.ofList (dropLeadingColons (s.toList.filter fun c => !isWhiteSpace c))⟩

/-- The last segment of the path: what follows its rightmost `::`. -/
def MarkerPath.shortName (p : MarkerPath) : String :=
  match splitLastText? p.text "::" with
  | some (_, last) => last
  | none => p.text

/-! ### Applications -/

/-- The value of a named marker argument. -/
inductive ArgValue where
  | bool (value : Bool)
  /-- An integer literal that fits 128 signed bits. -/
  | int (value : Int)
  /-- Any other value: a float, a character, an expression, an integer out of range. -/
  | null
  | str (value : String)
  deriving DecidableEq, Repr, Inhabited

/-- The value as a flag, if it is one. -/
def ArgValue.asBool : ArgValue → Option Bool
  | .bool b => some b
  | _ => none

/-- One application of a marker: its resolved path and its named arguments in written order. -/
structure Marker where
  /-- The resolved identity of the marker. -/
  path : MarkerPath
  /-- The named arguments, in the order they are written. -/
  args : List (String × ArgValue) := []
  deriving DecidableEq, Repr, Inhabited

/-- The value of the first argument with the given name. -/
def Marker.arg (m : Marker) (name : String) : Option ArgValue :=
  (m.args.find? (·.1 == name)).map (·.2)

/-! ### The marker vocabulary of one crate -/

/-- The markers of one marker crate, named by the crate. -/
structure MarkerSet where
  /-- The crate name, trimmed, with dashes written as underscores. -/
  crateName : String
  deriving DecidableEq, Repr, Inhabited

/-- The name of the marker crate when none is configured. -/
def defaultMarkerCrate : String := "graft"

/-- The vocabulary of the crate written `name`: trimmed, dashes turned into underscores. -/
def MarkerSet.ofCrate (name : String) : MarkerSet :=
  ⟨replaceText (trimText name) "-" "_"⟩

/-- The path of a name exported by the crate root. -/
def MarkerSet.qualify (m : MarkerSet) (name : String) : MarkerPath :=
  MarkerPath.ofString (m.crateName ++ "::" ++ name)

/-- The type marker that asks for an instance accessor. -/
def MarkerSet.singleton (m : MarkerSet) : MarkerPath := m.qualify "singleton"

/-- The field marker that asks for change notification. -/
def MarkerSet.notifyChanged (m : MarkerSet) : MarkerPath := m.qualify "notify_changed"

/-- The derive that registers the field marker as a helper attribute. -/
def MarkerSet.notifyChangedDerive (m : MarkerSet) : MarkerPath := m.qualify "NotifyChanged"

/-- The names the crate root exports, which glob imports bring into scope. -/
def exportedNames : List String :=
  ["singleton", "NotifyChanged", "Singleton", "NotifyPropertyChanged"]

/-- Whether the crate root exports a name. -/
def MarkerSet.exports (_m : MarkerSet) (name : String) : Bool :=
  exportedNames.contains name

/-- Whether a path names the crate root or its prelude, a module that globs can import from. -/
def MarkerSet.isExportModule (m : MarkerSet) (p : MarkerPath) : Bool :=
  p.text == m.crateName || p.text == m.crateName ++ "::prelude"

/-- Folds a prelude re-export onto the crate root: `c::prelude::x` becomes `c::x` when `x` is
a single segment; every other path is kept. -/
def MarkerSet.canonicalize (m : MarkerSet) (p : MarkerPath) : MarkerPath :=
  match dropPrefix? p.text (m.crateName ++ "::prelude::") with
  | some rest => if containsText rest "::" then p else m.qualify rest
  | none => p

/-- The helper attributes a resolved derive registers: `notify_changed` for `NotifyChanged`. -/
def MarkerSet.helperAttributes (m : MarkerSet) (derive : MarkerPath) : List String :=
  if derive == m.notifyChangedDerive then ["notify_changed"] else []

/-- The resolved identity of a helper attribute. -/
def MarkerSet.helperIdentity (m : MarkerSet) (helper : String) : MarkerPath :=
  m.qualify helper

end Augment
