import Augment.Model.Table
import Augment.Source.Imports
import Augment.Source.Modules
import Augment.Rust.Syntax.File
import Augment.Files.Path

/-!
# The symbol model of a crate

Every struct, enum and union of a crate becomes a type node with its symbol, and every field of a
struct becomes a field node right after it: a named field with its symbol, a positional field only
when it carries attributes, and then without a symbol.

* **Identities.** A node is known by a key naming what it declares (`type:app::W`,
  `field:app::W::count`, `field:app::W#0` for a positional field); a key that is already taken,
  as by a declaration repeated under different `cfg` attributes, gets the first free suffix `#1`,
  `#2`, ...
* **Revisions.** All nodes of a type share one revision, a fingerprint of the type's printed
  declaration, its module's imports and its constructors: whatever the answers about the type and
  its fields depend on.
* **Constructors** of a type are the associated functions in inherent impl blocks anywhere in the
  crate that take no `self` and return `Self` or the type; the impl's type is resolved from its
  module.
* **Markers.** Every attribute of a type other than `derive` is a marker, resolved from its module.
  A field attribute whose single name is a helper registered by one of the type's derives means
  that helper; any other is resolved like a type attribute. The named arguments of a marker are
  read from its parenthesized list: a bare name is the flag `true`, and `name = value` keeps a
  boolean, an integer within 128 signed bits, or a string, and anything else as null.
* **Locations** point at the declared name: the file relative to the root directory, the line,
  and the column counted in characters from 1.
-/

namespace Augment.Source

open Augment.Rust

/-! ### Markers -/

/-- The value of a marker argument: a boolean, an integer within 128 signed bits, or a string;
anything else is null. -/
def argValue (value : Expr) : ArgValue :=
  match value.kind with
  | .lit l =>
    match l.kind with
    | .bool => .bool l.boolValue
    | .int => match intLitValue l.text with
      | some i => if -Int.pow 2 127 ≤ i ∧ i < Int.pow 2 127 then .int i else .null
      | none => .null
    | .str => .str l.strValue
    | _ => .null
  | _ => .null

/-- The named arguments of an attribute, in written order; none unless the attribute has a
parenthesized list that reads as comma-separated attribute contents. -/
def markerArgs (a : Attribute) : List (String × ArgValue) :=
  match a.content with
  | .list _ _ tokens closePos =>
    match parseMetaList tokens closePos with
    | .ok metas => metas.filterMap fun m => match m with
      | .bare p => p.getIdent.map fun n => (n, .bool true)
      | .nameValue p v => p.getIdent.map fun n => (n, argValue v)
      | .list _ _ _ _ => none
    | .error _ => []
  | _ => []

/-- The resolved paths named by the `derive` attributes among a type's attributes. -/
def derivePaths (im : Imports) (markers : MarkerSet) (attrs : List Attribute) : List MarkerPath :=
  (attrs.filter fun a => a.content.path.isIdent "derive").flatMap fun a =>
    match a.content with
    | .list _ _ tokens closePos =>
      match parsePathList tokens closePos with
      | .ok paths => paths.map fun p => im.resolveMarker p markers
      | .error _ => []
    | _ => []

/-- The marker a field attribute means: a helper registered by one of the derives, or the
attribute's path resolved from the module. -/
def fieldMarkerPath (im : Imports) (markers : MarkerSet) (derives : List MarkerPath)
    (a : Attribute) : MarkerPath :=
  let helper := a.content.path.getIdent.bind fun h =>
    if derives.any (fun d => (markers.helperAttributes d).contains h) then
      some (markers.helperIdentity h)
    else none
  helper.getD (im.resolveMarker a.content.path markers)

/-- The markers of a named field: each attribute read as a field marker under the type's derives,
with its arguments. -/
def fieldMarkers (im : Imports) (markers : MarkerSet) (derives : List MarkerPath) (f : Field) :
    List Marker :=
  f.attrs.map fun a => { path := fieldMarkerPath im markers derives a, args := markerArgs a }

/-! ### Constructors -/

/-- Whether a declared return type names the type: a path whose last segment is `Self` or the
type's name. -/
def returnsSelf (typeName : String) (output : Option Ty) : Bool :=
  match output.bind Ty.plainPath? with
  | some p => match p.lastIdent with
    | some last => last == "Self" || last == typeName
    | none => false
  | none => false

/-- The visibility of a declaration from its modifier. -/
def visibilityOf : VisKind → Visibility
  | .inherited => .inherited
  | .pub => .exported
  | .restricted => .restricted

/-- The constructors among the functions of an inherent impl for the type named `typeName`. -/
def inherentConstructors (typeName : String) (fns : List ImplFn) : List Constructor :=
  (fns.filter fun f => !f.takesSelf && returnsSelf typeName f.output).map fun f =>
    { name := f.ident, visibility := visibilityOf f.vis, params := f.params }

/-- The constructors declared by the inherent impl blocks of every module, each with the full
path of the type it belongs to. -/
def crateConstructors (modules : List (Module × Imports)) (declared : List String) :
    List (String × Constructor) :=
  modules.flatMap fun (m, im) => m.items.flatMap fun item =>
    match item with
    | .impl b =>
      if b.isTrait then [] else
      match b.selfTy.plainPath? with
      | some p => match p.lastIdent with
        | some last =>
          let owner := im.resolveLocal p declared
          (inherentConstructors last b.fns).map fun c => (owner, c)
        | none => []
      | none => []
    | _ => []

/-! ### Building the tables -/

/-- The first of `key`, `key#1`, `key#2`, ... that is not taken. -/
def freshKey (taken : List String) (key : String) : String :=
  if !taken.contains key then key
  else
    let suffixed := fun (n : Nat) => key ++ "#" ++ toString (n + 1)
    match (List.range (taken.length + 1)).find? (fun n => !taken.contains (suffixed n)) with
    | some n => suffixed n
    | none => suffixed taken.length

/-- The tables of a crate's model while they are built. -/
structure Index where
  /-- The keys taken so far. -/
  taken : List String := []
  /-- The nodes so far, each with its symbol if it has one. -/
  nodes : List (Node × Option SymbolId) := []
  /-- The symbols so far. -/
  symbols : List (SymbolId × SymbolEntry) := []
  deriving Inhabited

namespace Index

/-- Takes a fresh identity for a key. -/
def allocate (ix : Index) (key : String) : Index × String :=
  let k := freshKey ix.taken key
  ({ ix with taken := ix.taken ++ [k] }, k)

/-- Adds a node without a symbol. -/
def declareUnbound (ix : Index) (key : String) (kind : NodeKind) (rev : Revision) : Index :=
  let (ix, node) := ix.allocate ("node:" ++ key)
  { ix with nodes := ix.nodes ++ [({ id := ⟨node⟩, kind, revision := rev }, none)] }

/-- Adds a node with its symbol. -/
def declare (ix : Index) (key : String) (kind : NodeKind) (rev : Revision) (entry : SymbolEntry) :
    Index × SymbolId :=
  let (ix, node) := ix.allocate ("node:" ++ key)
  let (ix, symbol) := ix.allocate ("symbol:" ++ key)
  ({ ix with nodes := ix.nodes ++ [({ id := ⟨node⟩, kind, revision := rev }, some ⟨symbol⟩)],
             symbols := ix.symbols ++ [(⟨symbol⟩, entry)] }, ⟨symbol⟩)

end Index

/-- What indexing a type needs to know about its crate. -/
structure CrateContext where
  /-- The marker crate's markers. -/
  markers : MarkerSet
  /-- The root directory that locations are relative to. -/
  root : String
  /-- The constructors of the crate, by the full path of their type. -/
  constructors : List (String × Constructor)

/-- The fingerprint of a type: its printed declaration, its module's imports and its
constructors. -/
def typeRevision (d : TypeDecl) (im : Imports) (ctors : List Constructor) : Revision :=
  ⟨printStream d.tokens ++ "\n" ++ im.fingerprint ++
    String.join (ctors.map fun c => ";" ++ c.name ++ ":" ++ c.visibility.label ++ ":" ++
      toString c.params)⟩

/-- The location of a name at a position of a module's file. -/
def locationIn (cx : CrateContext) (m : Module) (pos : Pos) : Location :=
  { file := Files.relativeTo m.file cx.root, line := pos.line, column := pos.column + 1 }

/-- Adds the nodes of one field of a type: its position, the field, the type's symbol, path and
namespace, its derives and its revision. -/
def indexField (cx : CrateContext) (m : Module) (im : Imports) (owner : SymbolId) (fq : String)
    (derives : List MarkerPath) (rev : Revision) (ix : Index) (entry : Nat × Field) : Index :=
  let (index, f) := entry
  let kind := NodeKind.field f.attrs.length
  match f.ident with
  | none =>
    if f.attrs.isEmpty then ix else ix.declareUnbound ("field:" ++ fq ++ "#" ++ toString index) kind rev
  | some (name, pos) =>
    let markers := fieldMarkers im cx.markers derives f
    (ix.declare ("field:" ++ fq ++ "::" ++ name) kind rev
      { name := some name, ns := some m.ns, owner := some owner,
        declaredType := some (printStream f.ty.tokens), location := some (locationIn cx m pos),
        markers }).1

/-- Adds the nodes of one type declaration of a module. -/
def indexType (cx : CrateContext) (ix : Index) (entry : Module × Imports × TypeDecl) : Index :=
  let (m, im, d) := entry
  let fq := m.ns ++ "::" ++ d.ident
  let ctors := (cx.constructors.filter (·.1 == fq)).map (·.2)
  let rev := typeRevision d im ctors
  let derives := derivePaths im cx.markers d.attrs
  let markers := (d.attrs.filter fun a => !a.content.path.isIdent "derive").map fun a =>
    ({ path := im.resolveMarker a.content.path cx.markers, args := markerArgs a } : Marker)
  let (ix, owner) := ix.declare ("type:" ++ fq) .type rev
    { name := some d.ident, ns := some m.ns, location := some (locationIn cx m d.pos),
      typeParams := d.generics.params.length, markers, constructors := ctors }
  let fields := if d.kind == .struct then d.fields.toList else []
  (fields.zipIdx).foldl (fun ix (f, i) => indexField cx m im owner fq derives rev ix (i, f)) ix

/-- The model of a crate and the paths of its modules. -/
structure CrateIndex where
  /-- The paths of the crate's modules, in tree order. -/
  namespaces : List String
  /-- The nodes, each with its symbol if it has one. -/
  nodes : List (Node × Option SymbolId)
  /-- The symbols. -/
  symbols : List (SymbolId × SymbolEntry)

/-- The model of a crate's indexed tables. -/
def CrateIndex.model (c : CrateIndex) : SymbolModel :=
  SymbolModel.ofTables c.nodes c.symbols

/-- The type declarations among items. -/
def typeDecls (items : List Item) : List TypeDecl :=
  items.filterMap fun i => match i with
    | .decl d => some d
    | _ => none

/-- Indexes the modules of a crate, locations relative to `root`. -/
def CrateIndex.build (modules : List Module) (markers : MarkerSet) (root : String) : CrateIndex :=
  let crateName := (modules.head?.map (·.ns)).getD ""
  let withImports := modules.map fun m => (m, Imports.collect m.items crateName m.ns)
  let declared := modules.flatMap fun m => (typeDecls m.items).map fun d => m.ns ++ "::" ++ d.ident
  let cx : CrateContext := { markers, root, constructors := crateConstructors withImports declared }
  let pending := withImports.flatMap fun (m, im) => (typeDecls m.items).map fun d => (m, im, d)
  let ix := pending.foldl (indexType cx) {}
  { namespaces := modules.map (·.ns), nodes := ix.nodes, symbols := ix.symbols }

end Augment.Source
