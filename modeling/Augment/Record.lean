import Augment.Model
import Augment.Naming
import Augment.Rust.Syntax.File

/-!
# Records

What a pattern reads off one candidate node before it generates anything.

* A `FieldRecord` describes an observed field: a field marked `notify_changed`, of a type without
  generic parameters, whose declared type is a type and whose exposed name is usable. The marker's
  `generate_event` flag asks for the property's own event; only the first such marker counts, and
  anything but `true` or `false` counts as `false`.
* A `TypeRecord` describes a singleton type: a type marked `singleton`, without generic
  parameters, with the plan for the constructor its accessor calls.

A node that fails any of these conditions, or that the model cannot answer for, gives no record.
-/

namespace Augment

/-- The name of the marker argument that asks for a property's own event. -/
def generateEventArg : String := "generate_event"

/-- What the change-notification pattern reads off an observed field. -/
structure FieldRecord where
  /-- The type the field belongs to. -/
  owner : SymbolId
  /-- The name of that type. -/
  ownerName : String
  /-- The namespace of that type. -/
  ns : String
  /-- The field's own symbol. -/
  field : SymbolId
  /-- The field's name. -/
  fieldName : String
  /-- The field's declared type, as token text. -/
  ty : String
  /-- The name the property is exposed under. -/
  exposedName : String
  /-- Whether the property gets an event of its own. -/
  generateEvent : Bool
  deriving DecidableEq, Repr, Inhabited

/-- What the singleton pattern reads off a singleton type. -/
structure TypeRecord where
  /-- The type's symbol. -/
  owner : SymbolId
  /-- The type's name. -/
  name : String
  /-- The type's namespace. -/
  ns : String
  /-- The constructor the accessor calls. -/
  constructor : ConstructorPlan
  deriving DecidableEq, Repr, Inhabited

/-- Whether a type text reads as one type. -/
def isTypeText (text : String) : Bool :=
  match Rust.parseType text with
  | .ok _ => true
  | .error _ => false

/-- The `generate_event` flag of a marker: its first `generate_event` argument when that is a
boolean, and `false` otherwise. -/
def Marker.generateEvent (m : Marker) : Bool :=
  ((m.arg generateEventArg).bind ArgValue.asBool).getD false

namespace SymbolModel

/-- The record of an observed field declared by the node, if it is one. -/
def fieldRecord? (model : SymbolModel) (markers : MarkerSet) (node : NodeId) :
    Option FieldRecord := do
  let field ← model.declaredSymbol node
  let marker ← (model.markers field).find? (·.path == markers.notifyChanged)
  let generateEvent := marker.generateEvent
  let owner ← model.containingType field
  guard (model.typeParameterCount owner == 0)
  let ownerName ← model.symbolName owner
  let ns ← model.containingNamespace owner
  let fieldName ← model.symbolName field
  let ty ← model.declaredType field
  guard (isTypeText ty)
  let exposedName := Augment.exposedName fieldName
  guard (isUsable exposedName)
  return { owner, ownerName, ns, field, fieldName, ty, exposedName, generateEvent }

/-- The record of a singleton type declared by the node, if it is one. -/
def typeRecord? (model : SymbolModel) (markers : MarkerSet) (node : NodeId) :
    Option TypeRecord := do
  let owner ← model.declaredSymbol node
  guard ((model.markers owner).any (·.path == markers.singleton))
  guard (model.typeParameterCount owner == 0)
  let name ← model.symbolName owner
  let ns ← model.containingNamespace owner
  return { owner, name, ns, constructor := .ofConstructors (model.constructors owner) }

end SymbolModel

end Augment
