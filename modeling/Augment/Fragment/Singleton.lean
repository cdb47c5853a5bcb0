import Augment.Options
import Augment.Rust.Template

/-!
# Code of the singleton members

The code a singleton type gains: the accessor that hands out the one shared instance, the
private parameterless constructor the accessor calls when the type declares none, and the impl of
the marker crate's singleton trait, which delegates to the accessor.

How the accessor creates the instance on first access is decided in one place, `instanceBody`.
-/

namespace Augment.Fragment

open Augment.Rust

/-- The body of the accessor: look up the stored instance and create it when absent. -/
def instanceBody (owner constructor : TokenTree) : InstanceInit → TokenStream
  | .checkThenCreate =>
    let h : Holes := [("owner", [owner]), ("constructor", [constructor])]
    h.code ("static INSTANCE : :: std :: sync :: RwLock < :: core :: option :: Option < & 'static " ++
      "@owner >> = :: std :: sync :: RwLock :: new (:: core :: option :: Option :: None) ; " ++
      "let current = * INSTANCE . read () . unwrap_or_else " ++
      "(:: std :: sync :: PoisonError :: into_inner) ; " ++
      "if let :: core :: option :: Option :: Some (instance) = current") ++
    block (h.code "return instance ;") ++
    h.code ("let instance : & 'static @owner = :: std :: boxed :: Box :: leak " ++
      "(:: std :: boxed :: Box :: new (@owner :: @constructor ())) ; " ++
      "* INSTANCE . write () . unwrap_or_else (:: std :: sync :: PoisonError :: into_inner) = " ++
      ":: core :: option :: Option :: Some (instance) ; instance")
  | .once =>
    let h : Holes := [("owner", [owner]), ("constructor", [constructor])]
    h.code ("static INSTANCE : :: std :: sync :: OnceLock < @owner > = " ++
      ":: std :: sync :: OnceLock :: new () ; INSTANCE . get_or_init (@owner :: @constructor)")

/-- The accessor that returns the shared instance, created on first access. -/
def accessorCode (owner accessor constructor : TokenTree) (init : InstanceInit) : TokenStream :=
  let h : Holes := [("accessor", [accessor])]
  h.code ("# [doc = r\" Shared instance, created on first access.\"] # [must_use] " ++
    "pub fn @accessor () -> & 'static Self") ++
  block (instanceBody owner constructor init)

/-- The private parameterless constructor, which builds the default value. -/
def constructorCode (name : TokenTree) : TokenStream :=
  let h : Holes := [("name", [name])]
  h.code "fn @name () -> Self" ++ block (h.code ":: core :: default :: Default :: default ()")

/-- The impl of the marker crate's singleton trait, delegating to the accessor. -/
def singletonTraitCode (owner crateName accessor : TokenTree) : TokenStream :=
  let h : Holes := [("owner", [owner]), ("crate", [crateName]), ("accessor", [accessor])]
  h.code "impl :: @crate :: Singleton for @owner" ++
  block (h.code "fn instance () -> & 'static Self" ++ block (h.code "Self :: @accessor ()"))

end Augment.Fragment
