import Augment.Text.Words
import Augment.Text.Chars

/-!
# Property names

How a storage field is exposed. The field `_count` exposes the property `Count`: the field name
without a raw prefix, in upper camel case. The property is read through `count`, written through
`set_count` and, on request, announced through the event stem `count_changed`; all three come from
the snake case of the exposed name.

A name is usable when its snake case starts with a letter, holds only letters, digits and
underscores, and is none of the words that cannot be written even as raw identifiers.
-/

namespace Augment

open Augment.Text

/-- The exposed (upper camel case) property name of a storage field. -/
def exposedName (field : String) : String :=
  pascalCase (dropPrefixIfAny field "r#")

/-- The name of the getter of an exposed property. -/
def getterName (exposed : String) : String :=
  snakeCase exposed

/-- The name of the setter of an exposed property. -/
def setterName (exposed : String) : String :=
  "set_" ++ getterName exposed

/-- The stem of the per-property event of an exposed property. -/
def eventName (exposed : String) : String :=
  getterName exposed ++ "_changed"

/-- Words that cannot be identifiers, not even raw ones. -/
def unusableNames : List String := ["_", "crate", "self", "Self", "super"]

/-- Whether an exposed name gives usable member names. -/
def isUsable (exposed : String) : Bool :=
  let getter := getterName exposed
  (match getter.toList with
    | c :: _ => isAlphabetic c
    | [] => false) &&
  getter.toList.all (fun c => isAlphanumeric c || c == '_') &&
  !unusableNames.contains getter

end Augment
