import Augment.Model

/-!
# Diagnostics

A diagnostic reports a rule broken at a place in the source. The one rule, `GR0001`, asks that a
singleton type declare either no constructor, or exactly one that is private and takes no
parameters: any other constructor would let callers build a second instance.

`validate` checks every singleton type of a model; `diagnose` checks one node. A type whose name
the model does not know is not reported, and a type without a known location is reported at the
empty location.
-/

namespace Augment

/-- How serious a diagnostic is. -/
inductive Severity where
  | error
  | info
  | warning
  deriving DecidableEq, Repr, Inhabited

/-- The word a severity is reported as. -/
def Severity.label : Severity → String
  | .error => "error"
  | .info => "info"
  | .warning => "warning"

/-- A rule that diagnostics report. -/
structure Rule where
  /-- The rule's code. -/
  code : String
  /-- How serious a violation is. -/
  severity : Severity
  /-- What a violation by a subject is reported as. -/
  message : String → String

/-- The singleton constructor rule. -/
def invalidSingleton : Rule where
  code := "GR0001"
  severity := .error
  message subject :=
    "type `" ++ subject ++ "` must declare exactly one constructor, private and without parameters"

/-- A rule broken at a place. -/
structure Diagnostic where
  /-- The code of the broken rule. -/
  rule : String
  /-- How serious it is. -/
  severity : Severity
  /-- Where it is broken. -/
  location : Location
  /-- What is wrong. -/
  message : String
  deriving DecidableEq, Repr, Inhabited

namespace Diagnostic

/-- The diagnostic of a rule broken by `subject` at `location`. -/
def ofRule (r : Rule) (location : Location) (subject : String) : Diagnostic :=
  { rule := r.code, severity := r.severity, location, message := r.message subject }

/-- Whether the diagnostic is an error. -/
def isError (d : Diagnostic) : Bool :=
  d.severity == .error

/-- The text of a diagnostic: `severity[rule]: message`, then the location on its own line. -/
def text (d : Diagnostic) : String :=
  d.severity.label ++ "[" ++ d.rule ++ "]: " ++ d.message ++ "\n  --> " ++ d.location.text

end Diagnostic

/-- Whether a singleton type's constructors are allowed: none, or one private parameterless one. -/
def allowedSingletonConstructors : List Constructor → Bool
  | [] => true
  | [c] => c.isPrivateParameterless
  | _ => false

/-- The diagnostic of a node: a singleton type with constructors that are not allowed. -/
def SymbolModel.diagnose (model : SymbolModel) (markers : MarkerSet) (node : NodeId) :
    Option Diagnostic := do
  let ty ← model.declaredSymbol node
  guard ((model.markers ty).any (·.path == markers.singleton))
  guard (!allowedSingletonConstructors (model.constructors ty))
  let name ← model.symbolName ty
  return .ofRule invalidSingleton ((model.location ty).getD {}) name

end Augment
