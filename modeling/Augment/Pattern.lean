import Augment.Fragment
import Augment.Group
import Augment.Options
import Augment.Record

/-!
# What each pattern adds

The members a pattern adds to one owning type, from the records of that type.

* **Singleton.** The accessor, which calls the planned constructor; that constructor, when it has
  to be generated; and the singleton trait impl, when asked for.
* **Change notification.** The change registry, then a property per observed field, then the
  events of the properties that asked for one, then the trait impl, when asked for. All members
  land in one impl block, so their names must differ: the registry's names are taken first, and a
  field whose getter or setter name is already taken is left out. A property whose event names are
  taken keeps only the shared change announcement.
-/

namespace Augment

/-! ### Singleton -/

/-- The fragment the singleton pattern adds to a type, from the type's records (the first
counts). -/
def singletonFragment (opts : SingletonOptions) (markers : MarkerSet)
    (g : OwnerGroup TypeRecord) : Option Fragment :=
  let t := g.first
  let ctor := t.constructor.name
  let members : List Member :=
    [.instanceAccessor opts.accessor ctor opts.init] ++
    (if t.constructor.needsConstructor then [.constructor ctor] else []) ++
    (if opts.implementTrait then [.singletonTrait markers.crateName opts.accessor] else [])
  Fragment.ofMembers? .singleton t.ns t.owner t.name members

/-! ### Change notification -/

/-- The names of the change registry's members. -/
def registryNames : List String :=
  ["__graft_property_changed_handlers", "subscribe_property_changed", "on_property_changed"]

/-- The names of the members of a property's own event. -/
def eventMemberNames (exposed : String) : List String :=
  let stem := eventName exposed
  ["__graft_" ++ stem ++ "_handlers", "subscribe_" ++ stem, "on_" ++ stem]

/-- Takes all of the names, or none of them when one is already taken. -/
def claimNames (taken names : List String) : Option (List String) :=
  if names.any taken.contains then none else some (taken ++ names)

/-- The properties of the observed fields, given the names already taken, and the exposed names
of the properties that get their own event. -/
def propertyMembers (taken : List String) : List FieldRecord → List Member × List String
  | [] => ([], [])
  | f :: rest =>
    match claimNames taken [getterName f.exposedName, setterName f.exposedName] with
    | none => propertyMembers taken rest
    | some taken' =>
      let claimed := if f.generateEvent then claimNames taken' (eventMemberNames f.exposedName)
        else none
      let event := claimed.isSome
      let (props, events) := propertyMembers (claimed.getD taken') rest
      (.property f.fieldName f.exposedName f.ty event :: props,
        (if event then [f.exposedName] else []) ++ events)

/-- The fragment the change-notification pattern adds to a type, from its observed fields. -/
def notifyFragment (opts : NotifyOptions) (markers : MarkerSet)
    (g : OwnerGroup FieldRecord) : Option Fragment :=
  let t := g.first
  let (props, events) := propertyMembers registryNames g.members
  let members : List Member :=
    [.changeRegistry] ++ props ++ events.map .propertyEvent ++
    (if opts.implementTrait then [.notifyTrait markers.crateName] else [])
  Fragment.ofMembers? .notify t.ns t.owner t.ownerName members

end Augment
