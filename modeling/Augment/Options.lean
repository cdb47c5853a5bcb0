import Augment.Marker

/-!
# Generation options

The settings of one generation session, shared by both patterns and the validator: which marker
crate is used, what the singleton pattern names its accessor and how that accessor creates the
instance, and whether each pattern also implements the marker crate's trait.
-/

namespace Augment

/-- How a generated accessor creates its instance on first access. -/
inductive InstanceInit where
  /-- Read the stored instance, and create and store one when there is none. Two first accesses
  at once may each create an instance; the last store wins. -/
  | checkThenCreate
  /-- Create the instance through a once-cell: exactly one instance is ever created. -/
  | once
  deriving DecidableEq, Repr, Inhabited

namespace InstanceInit

/-- The name of an initialisation strategy in configuration files. -/
def label : InstanceInit → String
  | .checkThenCreate => "check-then-create"
  | .once => "once"

/-- The strategy a configuration name denotes. -/
def ofLabel? : String → Option InstanceInit
  | "check-then-create" => some .checkThenCreate
  | "once" => some .once
  | _ => none

theorem ofLabel?_label (i : InstanceInit) : ofLabel? i.label = some i := by
  cases i <;> rfl

end InstanceInit

/-- Settings of the singleton pattern. -/
structure SingletonOptions where
  /-- The name of the generated accessor. -/
  accessor : String := "instance"
  /-- How the accessor creates the instance. -/
  init : InstanceInit := .checkThenCreate
  /-- Whether to implement the marker crate's singleton trait as well. -/
  implementTrait : Bool := true
  deriving DecidableEq, Repr, Inhabited

/-- Settings of the change-notification pattern. -/
structure NotifyOptions where
  /-- Whether to implement the marker crate's change-notification trait as well. -/
  implementTrait : Bool := true
  deriving DecidableEq, Repr, Inhabited

/-- The settings of one generation session. -/
structure Options where
  /-- The marker attributes the session looks for. -/
  markers : MarkerSet := MarkerSet.ofCrate defaultMarkerCrate
  /-- Settings of the singleton pattern. -/
  singleton : SingletonOptions := {}
  /-- Settings of the change-notification pattern. -/
  notify : NotifyOptions := {}
  deriving Inhabited

/-- The crate name that generated namespaces start with: the configured target crate, else the
package's name, with dashes written as underscores. -/
def crateNameFor (targetCrate : Option String) (package : String) : String :=
  Text.replaceText (targetCrate.getD package) "-" "_"

end Augment
