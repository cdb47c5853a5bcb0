import Augment.Model

/-!
# Grouping records by owner

A pattern renders one fragment per owning type, from all the records of that type. Records are
grouped by owner identity, never by name: two types of the same name in different namespaces stay
apart. Groups come in the order their owners first appear, and each group keeps its records in
their order.
-/

namespace Augment

/-- The records of one owning type: never empty, in the order they came. -/
structure OwnerGroup (α : Type) where
  /-- The owning type. -/
  owner : SymbolId
  /-- The first record. -/
  first : α
  /-- The records after the first. -/
  rest : List α
  deriving DecidableEq, Repr

namespace OwnerGroup

variable {α : Type}

/-- The records of the group, in order. -/
def members (g : OwnerGroup α) : List α :=
  g.first :: g.rest

/-- Adds a record to the group of its owner, or opens a new group at the end. -/
def insert (ownerOf : α → SymbolId) : List (OwnerGroup α) → α → List (OwnerGroup α)
  | [], r => [{ owner := ownerOf r, first := r, rest := [] }]
  | g :: gs, r =>
    if g.owner == ownerOf r then { g with rest := g.rest ++ [r] } :: gs
    else g :: insert ownerOf gs r

end OwnerGroup

/-- The records grouped by owner: groups in order of first appearance, records in order. -/
def groupByOwner {α : Type} (ownerOf : α → SymbolId) (records : List α) : List (OwnerGroup α) :=
  records.foldl (OwnerGroup.insert ownerOf) []

end Augment
