/-!
# Constructors

The declared constructors of a type, and the plan for the one an instance accessor calls.

A type's accessor calls the first declared constructor that is private and takes no parameters.
When there is none, a private parameterless constructor is generated under the first name of
`new`, `__graft_new`, `__graft_new_`, `__graft_new__`, … that no declared constructor uses.
-/

namespace Augment

/-- The visibility of a declaration. -/
inductive Visibility where
  /-- No visibility modifier. -/
  | inherited
  /-- `pub`. -/
  | exported
  /-- `pub(crate)`, `pub(super)`, `pub(self)` or `pub(in path)`. -/
  | restricted
  deriving DecidableEq, Repr, Inhabited

/-- The word a visibility is reported as. -/
def Visibility.label : Visibility → String
  | .inherited => "private"
  | .exported => "public"
  | .restricted => "restricted"

/-- An associated function of a type that returns the type. -/
structure Constructor where
  /-- The function's name. -/
  name : String
  /-- The function's visibility. -/
  visibility : Visibility
  /-- The number of parameters. -/
  params : Nat
  deriving DecidableEq, Repr, Inhabited

/-- Whether the constructor is private and takes no parameters. -/
def Constructor.isPrivateParameterless (c : Constructor) : Bool :=
  c.visibility == .inherited && c.params == 0

/-- Which constructor an instance accessor calls. -/
inductive ConstructorPlan where
  /-- A declared private parameterless constructor. -/
  | existing (name : String)
  /-- A constructor generated beside the accessor. -/
  | synthesize (name : String)
  deriving DecidableEq, Repr, Inhabited

/-- The name the accessor calls. -/
def ConstructorPlan.name : ConstructorPlan → String
  | .existing n | .synthesize n => n

/-- Whether a constructor has to be generated. -/
def ConstructorPlan.needsConstructor : ConstructorPlan → Bool
  | .existing _ => false
  | .synthesize _ => true

/-- The name `__graft_new` followed by `k` underscores. -/
def fallbackConstructorName (k : Nat) : String :=
  "__graft_new" ++ String.ofList (List.replicate k '_')

/-- The first of `new`, `__graft_new`, `__graft_new_`, … that no constructor is named. Among the
first `cs.length + 2` candidates one is always free, since the names are distinct. -/
def freeConstructorName (cs : List Constructor) : String :=
  let taken := fun n => cs.any (·.name == n)
  if !taken "new" then "new"
  else
    match (List.range (cs.length + 1)).find? (fun k => !taken (fallbackConstructorName k)) with
    | some k => fallbackConstructorName k
    | none => fallbackConstructorName cs.length

/-- The plan for a type with the given declared constructors. -/
def ConstructorPlan.ofConstructors (cs : List Constructor) : ConstructorPlan :=
  match cs.find? Constructor.isPrivateParameterless with
  | some c => .existing c.name
  | none => .synthesize (freeConstructorName cs)

end Augment
