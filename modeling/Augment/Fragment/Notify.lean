import Augment.Naming
import Augment.Rust.Ident
import Augment.Rust.Template
import Augment.Text.Quoted

/-!
# Code of the change-notification members

The code a type with observed fields gains:

* the change registry: a list of handlers, a way to subscribe to it, and the method that calls
  every handler with the sender and the exposed name of the property that changed;
* per field, a property: a getter, and a setter that does nothing when the value stays the same
  and otherwise stores it and raises the change, and on request the property's own event;
* per property with an event of its own, that event: its handler list, subscription and raise;
* the impl of the marker crate's change-notification trait, delegating to the registry.

A property's type is given as text. Text that is no token stream gives no property at all; a
name that no identifier spells stops the whole rendering with an `IdentError`.
-/

namespace Augment.Fragment

open Augment.Rust
open Augment.Text

/-- The type of a handler list: a lock around a vector of boxed handlers whose argument list is
`args`, in printed form. -/
def handlerListType (h : Holes) (args : String) : TokenStream :=
  h.code (":: std :: sync :: RwLock < :: std :: vec :: Vec < :: std :: boxed :: Box < dyn Fn " ++
    args ++ " + Send + Sync >> , >")

/-- The function `@handlers` that owns a handler list in a static. -/
def handlerListCode (h : Holes) (args : String) : TokenStream :=
  h.code "fn @handlers () -> & 'static" ++ handlerListType h args ++
  block (h.code "static HANDLERS :" ++ handlerListType h args ++
    h.code "= :: std :: sync :: RwLock :: new (:: std :: vec :: Vec :: new ()) ; & HANDLERS")

/-- The body of a subscription: push the boxed handler onto the list of `@handlers`. -/
def subscribeBody (h : Holes) : TokenStream :=
  h.code ("Self :: @handlers () . write () . unwrap_or_else " ++
    "(:: std :: sync :: PoisonError :: into_inner) . push (:: std :: boxed :: Box :: new (handler)) ;")

/-- The body of a raise: call each handler of `@handlers` with the arguments `call`. -/
def raiseBody (h : Holes) (call : String) : TokenStream :=
  h.code ("let handlers = Self :: @handlers () . read () . unwrap_or_else " ++
    "(:: std :: sync :: PoisonError :: into_inner) ; for handler in handlers . iter ()") ++
  block (h.code ("handler " ++ call ++ " ;"))

/-- The change registry of a type. -/
def registryCode (owner : TokenTree) : TokenStream :=
  let h : Holes := [("owner", [owner]),
    ("handlers", [TokenTree.mkIdent "__graft_property_changed_handlers"])]
  handlerListCode h "(& @owner , & str)" ++
  h.code ("# [doc = r\" Register a handler called with the sender and the exposed property\"] " ++
    "# [doc = r\" name whenever a property changes.\"] " ++
    "pub fn subscribe_property_changed < F > (handler : F) " ++
    "where F : Fn (& Self , & str) + Send + Sync + 'static ,") ++
  block (subscribeBody h) ++
  h.code ("# [doc = r\" Raise the change event for `property_name`.\"] " ++
    "pub fn on_property_changed (& self , property_name : & str)") ++
  block (raiseBody h "(self , property_name)")

/-- The getter and setter of a property over the storage field `field`, or nothing when the
type text is no token stream. The setter also raises the property's own event when `event`. -/
def propertyCode (field : TokenTree) (exposed ty : String) (event : Bool) :
    Except IdentError (Option TokenStream) :=
  match lex ty with
  | .error _ => pure none
  | .ok tyTokens => do
    let getter ← Ident.ofName (getterName exposed)
    let setter ← Ident.ofName (setterName exposed)
    let raise ← if event then do
        let onEvent ← Ident.exact ("on_" ++ eventName exposed)
        pure (Holes.code [("on_event", [onEvent])] "Self :: @on_event () ;")
      else pure []
    let h : Holes := [("getter", [getter]), ("setter", [setter]), ("field", [field]),
      ("ty", tyTokens), ("exposed", [TokenTree.mkLiteral (stringLiteralText exposed)]),
      ("raise", raise)]
    return some (
      h.code "# [must_use] pub fn @getter (& self) -> & @ty" ++ block (h.code "& self . @field") ++
      h.code "pub fn @setter (& mut self , value : @ty)" ++
      block (h.code "if self . @field == value" ++ block (h.code "return ;") ++
        h.code "self . @field = value ; self . on_property_changed (@exposed) ; @raise"))

/-- The event of one property: its handler list, subscription and raise. -/
def eventCode (exposed : String) : Except IdentError TokenStream := do
  let stem := eventName exposed
  let handlers ← Ident.exact ("__graft_" ++ stem ++ "_handlers")
  let subscribe ← Ident.exact ("subscribe_" ++ stem)
  let onEvent ← Ident.exact ("on_" ++ stem)
  let h : Holes := [("handlers", [handlers]), ("subscribe", [subscribe]), ("on_event", [onEvent])]
  return handlerListCode h "()" ++
    h.code "pub fn @subscribe < F > (handler : F) where F : Fn () + Send + Sync + 'static ," ++
    block (subscribeBody h) ++
    h.code "fn @on_event ()" ++ block (raiseBody h "()")

/-- The impl of the marker crate's change-notification trait, delegating to the registry. -/
def notifyTraitCode (owner crateName : TokenTree) : TokenStream :=
  let h : Holes := [("owner", [owner]), ("crate", [crateName])]
  h.code "impl :: @crate :: NotifyPropertyChanged for @owner" ++
  block (
    h.code ("fn subscribe_property_changed < F > (handler : F) " ++
      "where F : Fn (& Self , & str) + Send + Sync + 'static ,") ++
    block (h.code "@owner :: subscribe_property_changed (handler) ;") ++
    h.code "fn on_property_changed (& self , property_name : & str)" ++
    block (h.code "@owner :: on_property_changed (self , property_name) ;"))

end Augment.Fragment
