import Augment.Model

/-!
# Models given by tables

A symbol model read from two tables: the nodes, each with the symbol it declares if any, and the
symbols, each with what is known of it. A lookup of a symbol missing from the table answers as
for a symbol with nothing known; when a node or symbol occurs twice, its last row counts.
-/

namespace Augment

/-- What is known of one symbol. -/
structure SymbolEntry where
  /-- The symbol's name. -/
  name : Option String := none
  /-- The namespace it is declared in. -/
  ns : Option String := none
  /-- The type it belongs to, for a field. -/
  owner : Option SymbolId := none
  /-- Its declared type, for a field. -/
  declaredType : Option String := none
  /-- Where it is declared. -/
  location : Option Location := none
  /-- The number of its generic parameters, for a type. -/
  typeParams : Nat := 0
  /-- The markers written on it. -/
  markers : List Marker := []
  /-- Its constructors, for a type. -/
  constructors : List Constructor := []
  deriving DecidableEq, Repr, Inhabited

/-- The last row of a table with the given key. -/
def lastRow? {κ α : Type} [BEq κ] (rows : List (κ × α)) (k : κ) : Option α :=
  rows.reverse.lookup k

/-- The model of a node table and a symbol table. -/
def SymbolModel.ofTables (nodes : List (Node × Option SymbolId))
    (symbols : List (SymbolId × SymbolEntry)) : SymbolModel :=
  let entry := fun s => (lastRow? symbols s).getD {}
  { nodes := nodes.map (·.1)
    declaredSymbol := fun n => (lastRow? (nodes.map fun r => (r.1.id, r.2)) n).join
    symbolName := fun s => (entry s).name
    markers := fun s => (entry s).markers
    containingType := fun s => (entry s).owner
    containingNamespace := fun s => (entry s).ns
    constructors := fun s => (entry s).constructors
    declaredType := fun s => (entry s).declaredType
    location := fun s => (entry s).location
    typeParameterCount := fun s => (entry s).typeParams }

end Augment
