import Augment.Marker
import Augment.Constructor

/-!
# The symbol model

What the generator knows of a program: a list of syntax nodes, and questions it may ask about
the symbols that the nodes declare.

A node is a type declaration, a field, or something else; a field node counts its attribute
lists. Each node carries a *revision*, a fingerprint of everything the answers about it depend
on: two passes that see a node with the same revision get the same answers about it, which is
what lets a generator reuse its earlier work.

A model is a record of lookup functions rather than a data structure, so that a model read from
source code and a model given directly (as in tests) are used alike. A lookup that has nothing to
say answers `none` or the empty list.
-/

namespace Augment

/-- The identity of a syntax node. -/
structure NodeId where
  /-- The key the node is known by. -/
  key : String
  deriving DecidableEq, Repr, Hashable, Inhabited

/-- The identity of a symbol: a type or a field. -/
structure SymbolId where
  /-- The key the symbol is known by. -/
  key : String
  deriving DecidableEq, Repr, Hashable, Inhabited

/-- A fingerprint of what a node's answers depend on. -/
structure Revision where
  /-- The fingerprint text. -/
  fingerprint : String
  deriving DecidableEq, Repr, Hashable, Inhabited

/-- What a syntax node declares. -/
inductive NodeKind where
  /-- A field, with the number of attribute lists written on it. -/
  | field (markerLists : Nat)
  /-- A type declaration. -/
  | type
  /-- Anything else. -/
  | other
  deriving DecidableEq, Repr, Inhabited

/-- A syntax node as the generator sees it. -/
structure Node where
  /-- The node's identity. -/
  id : NodeId
  /-- What the node declares. -/
  kind : NodeKind
  /-- The fingerprint of what the answers about the node depend on. -/
  revision : Revision
  deriving DecidableEq, Repr, Inhabited

namespace Node

/-- Whether the node is a field with at least one attribute list. -/
def isMarkedField (n : Node) : Bool :=
  match n.kind with
  | .field k => 0 < k
  | _ => false

/-- Whether the node declares a type. -/
def isType (n : Node) : Bool :=
  n.kind == .type

end Node

/-- A place in a source file: the file name, the line from 1 and the column from 1. -/
structure Location where
  /-- The file name. -/
  file : String := ""
  /-- The line, from 1. -/
  line : Nat := 0
  /-- The column, from 1. -/
  column : Nat := 0
  deriving DecidableEq, Repr, Inhabited

/-- The text of a location: `file:line:column`. -/
def Location.text (l : Location) : String :=
  l.file ++ ":" ++ toString l.line ++ ":" ++ toString l.column

/-- A program as the generator sees it: syntax nodes and lookups on the symbols they declare. -/
structure SymbolModel where
  /-- The syntax nodes, in source order. -/
  nodes : List Node
  /-- The symbol a node declares, if it declares one. -/
  declaredSymbol : NodeId → Option SymbolId
  /-- The name of a symbol. -/
  symbolName : SymbolId → Option String
  /-- The markers written on a symbol, in source order. -/
  markers : SymbolId → List Marker
  /-- The type a field belongs to. -/
  containingType : SymbolId → Option SymbolId
  /-- The namespace a symbol is declared in. -/
  containingNamespace : SymbolId → Option String
  /-- The constructors declared for a type. -/
  constructors : SymbolId → List Constructor
  /-- The declared type of a field, as token text. -/
  declaredType : SymbolId → Option String
  /-- Where a symbol is declared. -/
  location : SymbolId → Option Location
  /-- The number of generic parameters of a type. -/
  typeParameterCount : SymbolId → Nat

/-- The class of each revision: revisions are numbered from 0 in order of first appearance, so
two entries share a class exactly when their revisions are equal. -/
def revisionClasses (revs : List Revision) : List Nat :=
  let firsts := revs.foldl (fun acc r => if acc.contains r then acc else acc ++ [r]) []
  revs.map fun r => firsts.idxOf r

end Augment
