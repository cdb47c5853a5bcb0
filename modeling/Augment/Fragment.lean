import Augment.Model
import Augment.Fragment.Singleton
import Augment.Fragment.Notify

/-!
# Fragments

A fragment is everything one pattern adds to one type: a list of members. The members say what
is added; `Fragment.render` is the one place where they become code.

A fragment renders as the type's own impl block, holding the members that live inside it, then
the trait impls. Names are made into identifiers in this order: the type's name, each member of
the impl block in turn, then each trait impl, and the first name that no identifier spells stops
the rendering.
-/

namespace Augment

open Augment.Rust
open Augment.Fragment

/-- The patterns a generator applies. -/
inductive Pattern where
  /-- One shared instance per type, behind an accessor. -/
  | singleton
  /-- Properties over observed fields that announce their changes. -/
  | notify
  deriving DecidableEq, Repr, Inhabited

/-- The tag of a pattern in the names of generated files. -/
def Pattern.tag : Pattern → String
  | .singleton => "singleton"
  | .notify => "notify"

/-- One thing a pattern adds to a type. -/
inductive Member where
  /-- The accessor named `accessor` that returns the shared instance, built by `constructor`. -/
  | instanceAccessor (accessor constructor : String) (init : InstanceInit)
  /-- A generated private parameterless constructor. -/
  | constructor (name : String)
  /-- The impl of the marker crate's singleton trait, delegating to the accessor. -/
  | singletonTrait (crateName accessor : String)
  /-- The type's change registry. -/
  | changeRegistry
  /-- A getter and a value-checked setter over the storage field `field`, whose type is `ty`. -/
  | property (field exposed ty : String) (event : Bool)
  /-- The event of one property. -/
  | propertyEvent (exposed : String)
  /-- The impl of the marker crate's change-notification trait. -/
  | notifyTrait (crateName : String)
  deriving DecidableEq, Repr, Inhabited

namespace Member

/-- The code the member places inside the type's own impl block, if it places any there. -/
def inherentCode (owner : TokenTree) : Member → Except IdentError (Option TokenStream)
  | .instanceAccessor accessorName constructorName init => do
    let accessor ← Ident.ofName accessorName
    let constructor ← Ident.ofName constructorName
    return some (accessorCode owner accessor constructor init)
  | .constructor name => do
    return some (constructorCode (← Ident.ofName name))
  | .changeRegistry => pure (some (registryCode owner))
  | .property field exposed ty event => do
    propertyCode (← Ident.ofName field) exposed ty event
  | .propertyEvent exposed => some <$> eventCode exposed
  | .singletonTrait _ _ | .notifyTrait _ => pure none

/-- The code the member places after the type's own impl block, if it places any there. -/
def outerCode (owner : TokenTree) : Member → Except IdentError (Option TokenStream)
  | .singletonTrait crateName accessorName => do
    let crateIdent ← Ident.ofName crateName
    let accessor ← Ident.ofName accessorName
    return some (singletonTraitCode owner crateIdent accessor)
  | .notifyTrait crateName => do
    return some (notifyTraitCode owner (← Ident.ofName crateName))
  | _ => pure none

end Member

/-- The code of a list of members added to the type named `ownerName`: the type's own impl block
with the members that live inside it, then the trait impls. -/
def renderMembers (ownerName : String) (members : List Member) : Except IdentError TokenStream := do
  let owner ← Ident.ofName ownerName
  let inherent ← members.filterMapM (·.inherentCode owner)
  let outer ← members.filterMapM (·.outerCode owner)
  return Holes.code [("owner", [owner])] "# [allow (dead_code)] impl @owner" ++
    block inherent.flatten ++ outer.flatten

/-- Everything one pattern adds to one type. -/
structure Fragment where
  /-- The pattern that adds it. -/
  pattern : Pattern
  /-- The namespace of the type. -/
  ns : String
  /-- The type's symbol. -/
  owner : SymbolId
  /-- The type's name. -/
  ownerName : String
  /-- What is added, in order. -/
  members : List Member
  deriving DecidableEq, Repr, Inhabited

namespace Fragment

/-- The fragment of the given members, or none when there are no members. -/
def ofMembers? (pattern : Pattern) (ns : String) (owner : SymbolId) (ownerName : String)
    (members : List Member) : Option Fragment :=
  if members.isEmpty then none else some { pattern, ns, owner, ownerName, members }

/-- The code of the fragment. -/
def render (f : Fragment) : Except IdentError TokenStream :=
  renderMembers f.ownerName f.members

end Fragment

end Augment
