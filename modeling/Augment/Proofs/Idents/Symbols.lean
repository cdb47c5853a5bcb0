import Augment.Proofs.Idents.Sources
import Augment.Proofs.NodeTable
import Augment.Proofs.EventFlag
import Augment.Proofs.MemberNames

/-!
# The symbol model names things by identifiers

The build of a crate writes a symbol row for every type and every named field it indexes, with
the name the declaration was read under, and gives each type the constructors the crate's impl
blocks declare for it. When the crate's modules are named by ASCII identifier texts, so is every
symbol row; the names of types and constructors are moreover no keywords, and the owner of every
field is a type.

* `SymbolEntry.Named`, `Index.Named`: the invariant of the tables while they are built;
  `Index.Named.declare`, `indexField_named`, `indexType_named` are its steps and `build_named`
  the whole build.
* `typeRecord?_writable`, `fieldRecord?_writable`: every record a pattern reads off the model of
  such a crate names its type, constructor and field by names that `Ident.ofName` writes, and a
  field's exposed name is ASCII and usable; `build_records_writable` says so of the model as a
  whole, as `SymbolModel.RecordsWritable`.
-/

namespace Augment

open Augment.Rust

/-- A constructor named by an ASCII identifier text that is no keyword. -/
def Constructor.Named (c : Constructor) : Prop :=
  AsciiIdent c.name ∧ acceptsAsIdent c.name = true

/-- A symbol row named by an ASCII identifier text, which for a type (a row with no owner) is no
keyword, and whose constructors are named so too. -/
structure SymbolEntry.Named (e : SymbolEntry) : Prop where
  name : ∀ n, e.name = some n → AsciiIdent n ∧ (e.owner = none → acceptsAsIdent n = true)
  constructors : ∀ c ∈ e.constructors, c.Named

/-- A name that is an ASCII identifier text and no keyword is written by `Ident.ofName`. -/
theorem AsciiIdent.writable {n : String} (h : AsciiIdent n) (hk : acceptsAsIdent n = true) :
    Ident.Writable n :=
  IdentText.writable h.1 (not_mem_rawForbidden_of_acceptsAsIdent hk)

/-- Every constructor an accessor may call is written by `Ident.ofName`: a declared one is named
by an identifier, and a generated one is `new` or `__graft_new` and underscores. -/
theorem ofConstructors_writable {cs : List Constructor} (h : ∀ c ∈ cs, c.Named) :
    Ident.Writable (ConstructorPlan.ofConstructors cs).name := by
  rcases ofConstructors_first_private_or_first_free cs with
    ⟨pre, c, post, rfl, -, -, -, hplan⟩ | ⟨-, n, hplan, -, -⟩
  · rw [hplan]
    exact AsciiIdent.writable (h c (by simp)).1 (h c (by simp)).2
  · rw [hplan]
    cases n with
    | zero => exact Ident.writable_of_isSpelled (by decide) (by decide)
    | succ k =>
      -- `__graft_new` spelled, then underscores only
      have hspelled : Ident.isSpelled (fallbackConstructorName k) = true := by
        refine Ident.isSpelled_append (by decide) fun c hc => ?_
        rw [String.toList_ofList, List.mem_replicate] at hc
        rw [hc.2]
        decide
      refine Ident.writable_of_isSpelled hspelled fun hmem => ?_
      have hne : fallbackConstructorName k ≠ "_" := by
        intro heq
        have hlen := congrArg String.length heq
        have h11 : "__graft_new".length = 11 := by decide
        have h1 : "_".length = 1 := by decide
        simp only [fallbackConstructorName, String.length_append, String.length_ofList,
          List.length_replicate, h11, h1] at hlen
        omega
      exact hne (eq_underscore_of_mem_rawForbidden hmem (by simp [fallbackConstructorName]))

/-- A singleton record whose type and constructor are named by names `Ident.ofName` writes. -/
def TypeRecord.Writable (r : TypeRecord) : Prop :=
  Ident.Writable r.name ∧ Ident.Writable r.constructor.name

/-- A field record whose type and field are named by names `Ident.ofName` writes, and whose
exposed name is ASCII and usable. -/
structure FieldRecord.Writable (r : FieldRecord) : Prop where
  ownerName : Ident.Writable r.ownerName
  fieldName : Ident.Writable r.fieldName
  exposedAscii : Text.isAsciiText r.exposedName = true
  exposedUsable : isUsable r.exposedName = true

/-- A model whose records, read under the given markers, are writable: the singleton record of
every type node and every field record. -/
structure SymbolModel.RecordsWritable (model : SymbolModel) (markers : MarkerSet) : Prop where
  types : ∀ n ∈ model.nodes, n.isType = true → ∀ r, model.typeRecord? markers n.id = some r →
    r.Writable
  fields : ∀ node r, model.fieldRecord? markers node = some r → r.Writable

/-- A type's record bears the name of the symbol its node declares. -/
theorem typeRecord?_symbolName {model : SymbolModel} {markers : MarkerSet} {node : NodeId}
    {r : TypeRecord} (h : model.typeRecord? markers node = some r) :
    model.symbolName r.owner = some r.name := by
  unfold SymbolModel.typeRecord? at h
  -- each step binds one `Option`; only the last builds the record
  obtain ⟨owner, -, h⟩ := Option.bind_eq_some_iff.1 h
  obtain ⟨-, -, h⟩ := Option.bind_eq_some_iff.1 h
  obtain ⟨-, -, h⟩ := Option.bind_eq_some_iff.1 h
  obtain ⟨name, hname, h⟩ := Option.bind_eq_some_iff.1 h
  obtain ⟨ns, -, h⟩ := Option.bind_eq_some_iff.1 h
  cases h
  exact hname

end Augment

namespace Augment.Source

open Augment.Rust

/-- The tables of a crate's model while they are built: every symbol row is named, every type
node is bound to a symbol whose row has no owner, and every owner of a row has a row with no
owner. -/
structure Index.Named (ix : Index) : Prop where
  symbols : ∀ r ∈ ix.symbols, r.2.Named
  types : ∀ r ∈ ix.nodes, r.1.kind = .type → ∀ s, r.2 = some s →
    ∃ e, (s, e) ∈ ix.symbols ∧ e.owner = none
  owners : ∀ r ∈ ix.symbols, ∀ o, r.2.owner = some o → ∃ e, (o, e) ∈ ix.symbols ∧ e.owner = none

theorem index_named_empty : ({} : Index).Named :=
  ⟨by simp, by simp, by simp⟩

/-- A row of the type with symbol `o`: the row an owned row points at. -/
def Index.TypeRow (ix : Index) (o : SymbolId) : Prop :=
  ∃ e, (o, e) ∈ ix.symbols ∧ e.owner = none

/-- **Declaring** a named row keeps the tables named, when a type node gets a row with no owner
and the row's owner, if any, is a type. -/
theorem Index.Named.declare {ix : Index} (h : ix.Named) (key : String) (kind : NodeKind)
    (rev : Revision) {entry : SymbolEntry} (he : entry.Named)
    (htype : kind = .type → entry.owner = none)
    (howner : ∀ o, entry.owner = some o → ix.TypeRow o) :
    (ix.declare key kind rev entry).1.Named := by
  rw [declare_eq]
  refine ⟨?_, ?_, ?_⟩
  · intro r hr
    rcases List.mem_append.1 hr with hr | hr
    · exact h.symbols r hr
    · rw [List.mem_singleton.1 hr]
      exact he
  · intro r hr hkind s hs
    rcases List.mem_append.1 hr with hr | hr
    · obtain ⟨e, he, howner⟩ := h.types r hr hkind s hs
      exact ⟨e, List.mem_append_left _ he, howner⟩
    · rw [List.mem_singleton.1 hr] at hkind hs
      cases hs
      exact ⟨entry, by simp, htype hkind⟩
  · intro r hr o ho
    rcases List.mem_append.1 hr with hr | hr
    · obtain ⟨e, he, howner⟩ := h.owners r hr o ho
      exact ⟨e, List.mem_append_left _ he, howner⟩
    · rw [List.mem_singleton.1 hr] at ho
      obtain ⟨e, he, howner⟩ := howner o ho
      exact ⟨e, List.mem_append_left _ he, howner⟩

/-- A row declared with no owner is a type row. -/
theorem Index.typeRow_declare {ix : Index} (key : String) (kind : NodeKind) (rev : Revision)
    {entry : SymbolEntry} (he : entry.owner = none) :
    (ix.declare key kind rev entry).1.TypeRow (ix.declare key kind rev entry).2 :=
  ⟨entry, by rw [declare_eq]; simp, he⟩

/-- Declaring a row keeps the rows there are. -/
theorem Index.TypeRow.declare {ix : Index} {o : SymbolId} (h : ix.TypeRow o) (key : String)
    (kind : NodeKind) (rev : Revision) (entry : SymbolEntry) :
    (ix.declare key kind rev entry).1.TypeRow o := by
  obtain ⟨e, he, howner⟩ := h
  exact ⟨e, by rw [declare_eq]; exact List.mem_append_left _ he, howner⟩

section Steps

variable (cx : CrateContext) (m : Module) (im : Imports)

/-- **One field** keeps the tables named, and keeps the row of its type. -/
theorem indexField_named (owner : SymbolId) (fq : String) (derives : List MarkerPath)
    (rev : Revision) {ix : Index} (h : ix.Named) (howner : ix.TypeRow owner) (i : Nat) {f : Field}
    (hf : f.NamedBy AsciiIdent) :
    (indexField cx m im owner fq derives rev ix (i, f)).Named ∧
      (indexField cx m im owner fq derives rev ix (i, f)).TypeRow owner := by
  unfold indexField
  dsimp only
  split
  · -- a positional field declares no symbol
    split
    · exact ⟨h, howner⟩
    · refine ⟨⟨h.symbols, ?_, h.owners⟩, howner⟩
      intro r hr hkind s hs
      rcases List.mem_append.1 hr with hr | hr
      · exact h.types r hr hkind s hs
      · rw [List.mem_singleton.1 hr] at hs
        cases hs
  · -- a named field: its row is named by the field's name and owned by the type
    rename_i name pos hident
    refine ⟨h.declare _ _ _ ⟨?_, by simp⟩ (by simp) ?_, howner.declare _ _ _ _⟩
    · intro n hn
      cases hn
      exact ⟨hf name pos hident, by simp⟩
    · intro o ho
      cases ho
      exact howner

/-- The fields of a type keep the tables named. -/
theorem foldl_indexField_named (owner : SymbolId) (fq : String) (derives : List MarkerPath)
    (rev : Revision) (fields : List (Field × Nat)) (hf : ∀ x ∈ fields, x.1.NamedBy AsciiIdent) :
    ∀ ix : Index, ix.Named → ix.TypeRow owner →
      (fields.foldl (fun ix x => indexField cx m im owner fq derives rev ix (x.2, x.1)) ix).Named := by
  -- on the fields, each keeping the row of their type
  induction fields with
  | nil => exact fun ix h _ => h
  | cons x rest ih =>
    intro ix h howner
    obtain ⟨h', howner'⟩ := indexField_named cx m im owner fq derives rev h howner x.2
      (hf x List.mem_cons_self)
    exact ih (fun y hy => hf y (List.mem_cons_of_mem _ hy)) _ h' howner'

/-- **One declaration** keeps the tables named: the type's row bears its name and its
constructors, with no owner, and its fields are owned by it. -/
theorem indexType_named {ix : Index} (h : ix.Named) {d : TypeDecl} (hd : d.NamedBy AsciiIdent)
    (hctors : ∀ c ∈ cx.constructors, c.2.Named) : (indexType cx ix (m, im, d)).Named := by
  unfold indexType
  dsimp only
  refine foldl_indexField_named cx m im _ _ _ _ _ ?_ _ (h.declare _ _ _ ⟨?_, ?_⟩ (fun _ => rfl)
    (by simp)) (Index.typeRow_declare _ _ _ rfl)
  · intro x hx
    have hmem : x.1 ∈ d.fields.toList := by
      have := List.fst_mem_of_mem_zipIdx hx
      split at this
      · exact this
      · cases this
    exact hd.fields x.1 hmem
  · intro n hn
    cases hn
    exact ⟨hd.ident.1, fun _ => hd.ident.2⟩
  · intro c hc
    simp only [List.mem_map, List.mem_filter] at hc
    obtain ⟨⟨fq, c'⟩, ⟨hmem, -⟩, rfl⟩ := hc
    exact hctors _ hmem

end Steps

/-- The constructors of a crate whose modules are named are named. -/
theorem crateConstructors_named {modules : List (Module × Imports)} {declared : List String}
    (h : ∀ x ∈ modules, ItemsNamed x.1.items) :
    ∀ c ∈ crateConstructors modules declared, c.2.Named := by
  intro c hc
  simp only [crateConstructors, List.mem_flatMap] at hc
  obtain ⟨⟨m, im⟩, hm, item, hitem, hc⟩ := hc
  -- only an inherent impl block declares constructors, each one of its functions
  split at hc
  · rename_i b
    have hfns : ∀ f ∈ b.fns, AsciiIdent f.ident ∧ acceptsAsIdent f.ident = true := by
      have hnamed := h _ hm _ hitem
      cases hnamed with
      | impl hfns => exact hfns
    split at hc
    · cases hc
    · split at hc
      · split at hc
        · simp only [inherentConstructors, List.mem_map, List.mem_filter] at hc
          obtain ⟨c', ⟨f, ⟨hf, -⟩, rfl⟩, rfl⟩ := hc
          exact hfns f hf
        · cases hc
      · cases hc
  · cases hc

/-- The declarations of a run of indexing steps keep the tables named and well keyed. -/
theorem foldl_indexType_named (cx : CrateContext) (hctors : ∀ c ∈ cx.constructors, c.2.Named)
    (pending : List (Module × Imports × TypeDecl)) (hp : ∀ x ∈ pending, x.2.2.NamedBy AsciiIdent) :
    ∀ ix : Index, ix.Named → ix.WellKeyed →
      (pending.foldl (indexType cx) ix).Named ∧ (pending.foldl (indexType cx) ix).WellKeyed := by
  -- on the declarations, each one step of `indexType`
  induction pending with
  | nil => exact fun ix h hk => ⟨h, hk⟩
  | cons x rest ih =>
    intro ix h hk
    obtain ⟨m, im, d⟩ := x
    obtain ⟨rows, hext, -⟩ := indexType_extends cx m im hk d
    exact ih (fun y hy => hp y (List.mem_cons_of_mem _ hy)) _
      (indexType_named cx m im h (hp _ List.mem_cons_self) hctors) hext.keyed

/-- A type declaration among named items is named. -/
theorem ItemsNamed.typeDecl {items : List Item} (h : ItemsNamed items) {d : TypeDecl}
    (hd : d ∈ typeDecls items) : d.NamedBy AsciiIdent := by
  simp only [typeDecls, List.mem_filterMap] at hd
  obtain ⟨i, hi, hd⟩ := hd
  split at hd
  · cases hd
    cases h _ hi with
    | decl hnamed => exact hnamed
  · cases hd

/-- **The build** of a crate whose modules are named gives named, well-keyed tables. -/
theorem build_named {modules : List Module} (h : ModulesNamed modules) (markers : MarkerSet)
    (root : String) :
    ∃ ix : Index, ix.Named ∧ ix.WellKeyed ∧
      CrateIndex.build modules markers root = ⟨modules.map (·.ns), ix.nodes, ix.symbols⟩ := by
  unfold CrateIndex.build
  dsimp only
  refine ⟨_, (foldl_indexType_named _ ?ctors _ ?decls {} index_named_empty Index.wellKeyed_empty).1,
    (foldl_indexType_named _ ?ctors _ ?decls {} index_named_empty Index.wellKeyed_empty).2, rfl⟩
  case ctors =>
    refine crateConstructors_named fun x hx => ?_
    obtain ⟨m, hm, rfl⟩ := List.mem_map.1 hx
    exact h m hm
  case decls =>
    -- every declaration indexed is a declaration of one of the modules
    intro x hx
    simp only [List.mem_flatMap, List.mem_map] at hx
    obtain ⟨_, ⟨m, hm, rfl⟩, d, hd, rfl⟩ := hx
    exact (h m hm).typeDecl hd

/-! ### The records of the model -/

/-- What the model of well-keyed tables says of a symbol: its row's name and constructors. -/
theorem ofTables_symbolRow {ix : Index} (hk : ix.WellKeyed) {o : SymbolId} {e : SymbolEntry}
    (he : (o, e) ∈ ix.symbols) :
    (SymbolModel.ofTables ix.nodes ix.symbols).symbolName o = e.name ∧
      (SymbolModel.ofTables ix.nodes ix.symbols).constructors o = e.constructors := by
  have hrow := lastRow?_eq_of_mem hk.symbolIds_nodup he
  simp [SymbolModel.ofTables, hrow]

section Records

variable {ix : Index} (h : ix.Named) (hk : ix.WellKeyed)
include h hk

/-- A type row's name is written by `Ident.ofName`. -/
theorem writable_of_typeRow {o : SymbolId} {e : SymbolEntry} (he : (o, e) ∈ ix.symbols)
    (howner : e.owner = none) {name : String}
    (hname : (SymbolModel.ofTables ix.nodes ix.symbols).symbolName o = some name) :
    Ident.Writable name := by
  rw [(ofTables_symbolRow hk he).1] at hname
  obtain ⟨hascii, hkey⟩ := (h.symbols _ he).name name hname
  exact AsciiIdent.writable hascii (hkey howner)

/-- **Every singleton record of a type node** names its type and its constructor by names that
`Ident.ofName` writes: the node is bound to a type's row. -/
theorem typeRecord?_writable {markers : MarkerSet} {n : Node}
    (hn : n ∈ (SymbolModel.ofTables ix.nodes ix.symbols).nodes) (htype : n.isType = true)
    {r : TypeRecord}
    (hr : (SymbolModel.ofTables ix.nodes ix.symbols).typeRecord? markers n.id = some r) :
    r.Writable := by
  obtain ⟨row, hrow, rfl⟩ := List.mem_map.1 hn
  obtain ⟨hdecl, hplan⟩ := typeRecord?_eq_some hr
  rw [hk.declaredSymbol_of_mem hrow] at hdecl
  obtain ⟨e, he, howner⟩ := h.types row hrow (by simpa [Node.isType] using htype) r.owner hdecl
  refine ⟨writable_of_typeRow h hk he howner (typeRecord?_symbolName hr), ?_⟩
  rw [hplan, (ofTables_symbolRow hk he).2]
  exact ofConstructors_writable (h.symbols _ he).constructors

/-- **Every field record** names its type and field by names that `Ident.ofName` writes, and
exposes the field under an ASCII usable name: the field's row is named, and its owner is a
type's row. -/
theorem fieldRecord?_writable {markers : MarkerSet} {node : NodeId} {r : FieldRecord}
    (hr : (SymbolModel.ofTables ix.nodes ix.symbols).fieldRecord? markers node = some r) :
    r.Writable := by
  obtain ⟨-, -, hcontaining, -, hownerName, -, hfieldName, -, -, hexposed, husable⟩ :=
    fieldRecord?_eq_some_iff.1 hr
  obtain ⟨e, he, heowner, -, hename⟩ := ofTables_row_of_containingType hcontaining
  rw [hename] at hfieldName
  have hfield := ((h.symbols _ he).name r.fieldName hfieldName).1
  obtain ⟨e', he', howner'⟩ := h.owners _ he r.owner heowner
  have hasciiExposed : Text.isAsciiText r.exposedName = true := by
    rw [hexposed]
    exact isAsciiText_exposedName hfield.2
  exact ⟨writable_of_typeRow h hk he' howner' hownerName,
    IdentText.writable_of_usable hfield.1 (hexposed ▸ husable), hasciiExposed, husable⟩

end Records

/-- **The records of a built crate are writable.** For a crate whose modules are named by ASCII
identifier texts, every singleton record of a type node and every field record the model gives
names things by names that `Ident.ofName` writes. -/
theorem build_records_writable {modules : List Module} (h : ModulesNamed modules)
    (markers markers' : MarkerSet) (root : String) :
    (CrateIndex.build modules markers root).model.RecordsWritable markers' := by
  obtain ⟨ix, hnamed, hkeyed, hbuild⟩ := build_named h markers root
  rw [hbuild]
  exact ⟨fun n hn htype r hr => typeRecord?_writable hnamed hkeyed hn htype hr,
    fun node r hr => fieldRecord?_writable hnamed hkeyed hr⟩

end Augment.Source
