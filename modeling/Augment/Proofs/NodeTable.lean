import Augment.Proofs.FieldOwner
import Augment.Proofs.PatternCache
import Mathlib.Data.List.Forall2

/-!
# The node table of a crate follows its source

The build of a crate walks its modules in tree order and the items of each module in order. Every
struct, enum and union gives a type node bound to the type's symbol; a struct's type node is
followed by one field node per named field, bound to the field's symbol, and one per positional
field that carries an attribute, bound to nothing. A field node counts the field's attributes, and
a field's symbol records the type's symbol as its owner.

Every node and symbol is allocated a key not taken before, and every key allocated is taken. So
the keys of all rows are distinct: node identities, symbol identities, and the two apart.

* `Index.WellKeyed`: the taken keys are distinct and are exactly the keys of the rows, and the
  symbol rows are the symbols of the node rows.
* `Index.Extends`: a well-keyed index that adds node rows and keeps its symbol rows.
* `Index.WellKeyed.declare`, `Index.WellKeyed.declareUnbound`: allocating fresh keys for a node and
  its symbol keeps an index well keyed.
* `indexField_extends`, `indexType_extends`: a field adds the row `FieldRow` asks for, if it gets a
  node; a declaration adds the rows `DeclRows` asks for.
* `Index.foldl_extends`: a run of such steps adds one block of rows per step, in order;
  `build_extends`: so the build adds one block per type declaration of the crate.
* `build_follows_source`: the build of every crate holds the rows its declarations ask for, under
  distinct keys, and binds and owns its symbols as its rows say.
-/

namespace Augment.Source

open Augment.Rust

/-! ### What the declarations ask for -/

/-- The type declarations of a crate in the order they are indexed: the modules in tree order,
the items of each module in order. -/
def crateDecls (modules : List Module) : List TypeDecl :=
  modules.flatMap fun m => typeDecls m.items

/-- Whether a field of a struct gets a node: a named field always, a positional one when it carries
an attribute. -/
def getsNode (f : Field) : Bool :=
  f.ident.isSome || !f.attrs.isEmpty

/-- The fields of a declaration that get a node, in declaration order; only a struct's fields are
indexed. -/
def nodedFields (d : TypeDecl) : List Field :=
  (if d.kind == .struct then d.fields.toList else []).filter getsNode

/-- A node row for the field `f` of the type with symbol `t`: a field node that counts `f`'s
attributes, bound to a symbol exactly when `f` is named, and that symbol belongs to `t`. -/
def FieldRow (owns : SymbolId → SymbolId → Prop) (t : SymbolId) (row : Node × Option SymbolId)
    (f : Field) : Prop :=
  row.1.kind = .field f.attrs.length ∧ row.2.isSome = f.ident.isSome ∧
    ∀ s, row.2 = some s → owns s t

/-- The node rows of a type declaration: the type's node bound to its symbol `t`, then one row per
field that gets a node, in declaration order. -/
def DeclRows (owns : SymbolId → SymbolId → Prop) (rows : List (Node × Option SymbolId))
    (d : TypeDecl) : Prop :=
  ∃ node t fieldRows, rows = (node, some t) :: fieldRows ∧ node.kind = .type ∧
    List.Forall₂ (FieldRow owns t) fieldRows (nodedFields d)

theorem FieldRow.mono {owns owns' : SymbolId → SymbolId → Prop}
    (howns : ∀ s t, owns s t → owns' s t) {t : SymbolId} {row : Node × Option SymbolId}
    {f : Field} (h : FieldRow owns t row f) :
    FieldRow owns' t row f :=
  ⟨h.1, h.2.1, fun s hs => howns s t (h.2.2 s hs)⟩

theorem DeclRows.mono {owns owns' : SymbolId → SymbolId → Prop}
    (howns : ∀ s t, owns s t → owns' s t) {rows : List (Node × Option SymbolId)} {d : TypeDecl}
    (h : DeclRows owns rows d) :
    DeclRows owns' rows d := by
  obtain ⟨node, t, fieldRows, rfl, hkind, hfields⟩ := h
  exact ⟨node, t, fieldRows, rfl, hkind, hfields.imp fun _ _ => FieldRow.mono howns⟩

/-- What a build should hold for a crate's modules: one block of rows per type declaration, in
order, each as `DeclRows` asks with ownership read off the model; distinct node identities,
distinct symbol identities, no symbol under a node's key; the symbol rows are the symbols the
nodes are bound to; and the model binds exactly the nodes' symbols. -/
structure FollowsSource (modules : List Module) (c : CrateIndex) : Prop where
  blocks : ∃ blocks : List (List (Node × Option SymbolId)), c.nodes = blocks.flatten ∧
    List.Forall₂ (DeclRows fun s t => c.model.containingType s = some t) blocks (crateDecls modules)
  nodeIds_nodup : (c.nodes.map (·.1.id)).Nodup
  symbolIds_nodup : (c.symbols.map (·.1)).Nodup
  symbol_ne_node : ∀ r ∈ c.nodes, ∀ s ∈ c.symbols, s.1.key ≠ r.1.id.key
  symbols_bound : c.symbols.map (·.1) = c.nodes.filterMap (·.2)
  declaredSymbol_row : ∀ r ∈ c.nodes, c.model.declaredSymbol r.1.id = r.2
  declaredSymbol_none : ∀ n ∉ c.nodes.map (·.1.id), c.model.declaredSymbol n = none

/-! ### Well-keyed indexes -/

/-- The keys of an index's rows: its nodes', then its symbols'. -/
def Index.rowKeys (ix : Index) : List String :=
  ix.nodes.map (·.1.id.key) ++ ix.symbols.map (·.1.key)

/-- An index whose taken keys are distinct and are exactly the keys of its rows, and whose symbol
rows are the symbols of its node rows, in order. -/
structure Index.WellKeyed (ix : Index) : Prop where
  taken_nodup : ix.taken.Nodup
  rowKeys_perm : ix.rowKeys.Perm ix.taken
  symbols_bound : ix.symbols.map (·.1) = ix.nodes.filterMap (·.2)

theorem Index.wellKeyed_empty : ({} : Index).WellKeyed :=
  ⟨List.nodup_nil, by simp [Index.rowKeys], rfl⟩

/-- The symbol `s` belongs to `t` in a symbol table: a row of `s` records `t` as its owner. -/
def OwnsIn (symbols : List (SymbolId × SymbolEntry)) (s t : SymbolId) : Prop :=
  ∃ e, (s, e) ∈ symbols ∧ e.owner = some t

theorem OwnsIn.mono {symbols symbols' : List (SymbolId × SymbolEntry)} (h : symbols <+: symbols')
    {s t : SymbolId} (hown : OwnsIn symbols s t) : OwnsIn symbols' s t :=
  let ⟨e, he, howner⟩ := hown
  ⟨e, h.subset he, howner⟩

/-- `ix'` extends `ix` by the node rows `rows`: it is well keyed, its node table is `ix`'s followed
by `rows`, and its symbol table begins with `ix`'s. -/
structure Index.Extends (ix ix' : Index) (rows : List (Node × Option SymbolId)) : Prop where
  keyed : ix'.WellKeyed
  nodes : ix'.nodes = ix.nodes ++ rows
  symbols : ix.symbols <+: ix'.symbols

theorem Index.Extends.refl {ix : Index} (h : ix.WellKeyed) : ix.Extends ix [] :=
  ⟨h, by simp, List.prefix_refl _⟩

theorem Index.Extends.trans {ix ix' ix'' : Index} {rows rows' : List (Node × Option SymbolId)}
    (h : ix.Extends ix' rows) (h' : ix'.Extends ix'' rows') : ix.Extends ix'' (rows ++ rows') :=
  ⟨h'.keyed, by rw [h'.nodes, h.nodes, List.append_assoc], h.symbols.trans h'.symbols⟩

/-- Rows appended under fresh keys keep an index well keyed. -/
theorem Index.WellKeyed.append {ix : Index} (h : ix.WellKeyed) {keys : List String}
    {rows : List (Node × Option SymbolId)} {srows : List (SymbolId × SymbolEntry)}
    (hfresh : (ix.taken ++ keys).Nodup)
    (hkeys : (rows.map (·.1.id.key) ++ srows.map (·.1.key)).Perm keys)
    (hbound : srows.map (·.1) = rows.filterMap (·.2)) :
    Index.WellKeyed ⟨ix.taken ++ keys, ix.nodes ++ rows, ix.symbols ++ srows⟩ := by
  refine ⟨hfresh, ?_, by simp [h.symbols_bound, hbound]⟩
  -- the row keys are the old ones and the new ones, in another order
  have hold := List.perm_iff_count.1 h.rowKeys_perm
  have hnew := List.perm_iff_count.1 hkeys
  rw [List.perm_iff_count]
  intro k
  have := hold k
  have := hnew k
  simp only [Index.rowKeys, List.map_append, List.count_append] at *
  omega

/-- Declaring a node with its symbol extends a well-keyed index by one row of that kind, bound to
the symbol returned, whose row in the symbol table is the given entry. -/
theorem Index.WellKeyed.declare {ix : Index} (h : ix.WellKeyed) (key : String) (kind : NodeKind)
    (rev : Revision) (entry : SymbolEntry) :
    ∃ node : Node, node.kind = kind ∧
      ix.Extends (ix.declare key kind rev entry).1
        [(node, some (ix.declare key kind rev entry).2)] ∧
      ((ix.declare key kind rev entry).2, entry) ∈ (ix.declare key kind rev entry).1.symbols := by
  rw [declare_eq]
  set k := freshKey ix.taken ("node:" ++ key)
  set k' := freshKey (ix.taken ++ [k]) ("symbol:" ++ key)
  -- both keys are fresh when they are allocated
  have hfresh : (ix.taken ++ [k, k']).Nodup := by
    have hk := freshKey_not_mem ix.taken ("node:" ++ key)
    have hk' := freshKey_not_mem (ix.taken ++ [k]) ("symbol:" ++ key)
    rw [show ix.taken ++ [k, k'] = (ix.taken.concat k).concat k' by simp]
    exact (h.taken_nodup.concat hk).concat (by simpa using hk')
  refine ⟨_, rfl, ⟨h.append hfresh (by simp) (by simp), rfl, List.prefix_append _ _⟩, by simp⟩

/-- Declaring a node without a symbol extends a well-keyed index by one row of that kind, bound to
nothing. -/
theorem Index.WellKeyed.declareUnbound {ix : Index} (h : ix.WellKeyed) (key : String)
    (kind : NodeKind) (rev : Revision) :
    ∃ node : Node, node.kind = kind ∧
      ix.Extends (ix.declareUnbound key kind rev) [(node, none)] := by
  set k := freshKey ix.taken ("node:" ++ key)
  have hdecl : ix.declareUnbound key kind rev =
      ⟨ix.taken ++ [k], ix.nodes ++ [(⟨⟨k⟩, kind, rev⟩, none)], ix.symbols ++ []⟩ := by
    simp [Index.declareUnbound, Index.allocate, k]
  have hfresh : (ix.taken ++ [k]).Nodup := by
    simpa using h.taken_nodup.concat (freshKey_not_mem ix.taken ("node:" ++ key))
  rw [hdecl]
  exact ⟨_, rfl, ⟨h.append hfresh (by simp) (by simp), rfl, List.prefix_append _ _⟩⟩

/-- **The run**: a fold whose every step extends a well-keyed index by rows that stand in `R` to
the step's input, ownership read off the symbols after the step, extends it by one block of rows
per input, in order, each standing in `R` to its input with ownership read off the final
symbols. -/
theorem Index.foldl_extends {γ : Type} (step : Index → γ → Index)
    (R : (SymbolId → SymbolId → Prop) → List (Node × Option SymbolId) → γ → Prop)
    (hmono : ∀ {owns owns' : SymbolId → SymbolId → Prop}, (∀ s t, owns s t → owns' s t) →
      ∀ rows x, R owns rows x → R owns' rows x)
    (l : List γ)
    (hstep : ∀ x ∈ l, ∀ ix : Index, ix.WellKeyed →
      ∃ rows, ix.Extends (step ix x) rows ∧ R (OwnsIn (step ix x).symbols) rows x)
    {ix : Index} (h : ix.WellKeyed) :
    ∃ blocks : List (List (Node × Option SymbolId)), ix.Extends (l.foldl step ix) blocks.flatten ∧
      List.Forall₂ (R (OwnsIn (l.foldl step ix).symbols)) blocks l := by
  induction l generalizing ix with
  | nil => exact ⟨[], by simpa using Index.Extends.refl h, .nil⟩
  | cons x l ih =>
    rw [List.foldl_cons]
    obtain ⟨rows, hx, hR⟩ := hstep x (by simp) ix h
    obtain ⟨blocks, hrest, hblocks⟩ := ih (fun y hy => hstep y (by simp [hy])) hx.keyed
    -- the rows of the first step keep their ownership in the symbols the later steps extend
    refine ⟨rows :: blocks, by simpa using hx.trans hrest, .cons ?_ hblocks⟩
    exact hmono (fun s t => OwnsIn.mono hrest.symbols) rows x hR

/-! ### Indexing declarations -/

section Steps

variable (cx : CrateContext) (m : Module) (im : Imports)

/-- **One field**: indexing a field extends a well-keyed index by the row `FieldRow` asks for if
the field gets a node, and by nothing otherwise; a named field's symbol belongs to `owner`. -/
theorem indexField_extends (owner : SymbolId) (fq : String) (derives : List MarkerPath)
    (rev : Revision) {ix : Index} (h : ix.WellKeyed) (i : Nat) (f : Field) :
    ∃ rows, ix.Extends (indexField cx m im owner fq derives rev ix (i, f)) rows ∧
      List.Forall₂
        (FieldRow (OwnsIn (indexField cx m im owner fq derives rev ix (i, f)).symbols) owner)
        rows ([f].filter getsNode) := by
  unfold indexField
  dsimp only
  split
  · -- a positional field: a node without a symbol, when it has attributes
    rename_i hident
    split
    · rename_i hattrs
      have hgets : getsNode f = false := by simp [getsNode, hident, hattrs]
      exact ⟨[], Index.Extends.refl h, by simp [hgets]⟩
    · rename_i hattrs
      obtain ⟨node, hkind, hext⟩ :=
        h.declareUnbound ("field:" ++ fq ++ "#" ++ toString i) (.field f.attrs.length) rev
      have hgets : getsNode f = true := by simp [getsNode, hattrs]
      refine ⟨_, hext, ?_⟩
      simp only [List.filter_cons, hgets, if_true, List.filter_nil]
      exact .cons ⟨hkind, by simp [hident], by simp⟩ .nil
  · -- a named field: a node bound to the field's symbol, whose row records the owner
    rename_i name pos hident
    obtain ⟨node, hkind, hext, hmem⟩ := h.declare ("field:" ++ fq ++ "::" ++ name)
      (.field f.attrs.length) rev
      { name := some name, ns := some m.ns, owner := some owner,
        declaredType := some (printStream f.ty.tokens), location := some (locationIn cx m pos),
        markers := fieldMarkers im cx.markers derives f }
    have hgets : getsNode f = true := by simp [getsNode, hident]
    refine ⟨_, hext, ?_⟩
    simp only [List.filter_cons, hgets, if_true, List.filter_nil]
    exact .cons ⟨hkind, by simp [hident], fun s hs => ⟨_, Option.some.inj hs ▸ hmem, rfl⟩⟩ .nil

/-- A run over numbered fields, each step giving a node to its field if it gets one, gives nodes
to the fields that get one, in order. -/
theorem flatten_map_filter_singleton (l : List (Field × Nat)) :
    (l.map fun e => [e.1].filter getsNode).flatten = (l.map (·.1)).filter getsNode := by
  induction l with
  | nil => rfl
  | cons e rest ih =>
    rw [List.map_cons, List.flatten_cons, ih, List.map_cons, List.filter_cons]
    by_cases hgets : getsNode e.1 <;> simp [hgets]

/-- Indexing a type declaration declares the type's node and symbol, then indexes the struct's
numbered fields with that symbol as their owner, all under one revision. -/
theorem indexType_eq_foldl (ix : Index) (d : TypeDecl) :
    ∃ key rev entry fq derives, indexType cx ix (m, im, d) =
      ((if d.kind == .struct then d.fields.toList else []).zipIdx).foldl
        (fun ix' e =>
          indexField cx m im (ix.declare key .type rev entry).2 fq derives rev ix' (e.2, e.1))
        (ix.declare key .type rev entry).1 := by
  unfold indexType
  dsimp only
  exact ⟨_, _, _, _, _, rfl⟩

/-- **One declaration**: indexing a type declaration extends a well-keyed index by the rows
`DeclRows` asks for. -/
theorem indexType_extends {ix : Index} (h : ix.WellKeyed) (d : TypeDecl) :
    ∃ rows, ix.Extends (indexType cx ix (m, im, d)) rows ∧
      DeclRows (OwnsIn (indexType cx ix (m, im, d)).symbols) rows d := by
  obtain ⟨key, rev, entry, fq, derives, heq⟩ := indexType_eq_foldl cx m im ix d
  rw [heq]
  obtain ⟨node, hkind, htype, -⟩ := h.declare key .type rev entry
  -- then the fields, each adding the row it asks for with the type's symbol as owner
  obtain ⟨blocks, hfields, hblocks⟩ := Index.foldl_extends _
    (fun owns rows (e : Field × Nat) =>
      List.Forall₂ (FieldRow owns (ix.declare key .type rev entry).2) rows ([e.1].filter getsNode))
    (fun howns _ _ hR => hR.imp fun _ _ => FieldRow.mono howns)
    (if d.kind == .struct then d.fields.toList else []).zipIdx
    (fun e _ _ h' => indexField_extends cx m im _ fq derives rev h' e.2 e.1) htype.keyed
  refine ⟨_, htype.trans hfields, node, _, blocks.flatten, rfl, hkind, ?_⟩
  have hflat := List.rel_flatten (List.forall₂_map_right_iff.2 hblocks)
  rwa [flatten_map_filter_singleton, List.zipIdx_map_fst] at hflat

end Steps

/-- Building a crate indexes its type declarations in order, one after another, on an empty
index. -/
theorem build_eq_foldl (modules : List Module) (markers : MarkerSet) (root : String) :
    ∃ (cx : CrateContext) (pending : List (Module × Imports × TypeDecl)),
      pending.map (·.2.2) = crateDecls modules ∧
      CrateIndex.build modules markers root = ⟨modules.map (·.ns),
        (pending.foldl (indexType cx) {}).nodes, (pending.foldl (indexType cx) {}).symbols⟩ := by
  refine ⟨_, _, ?_, rfl⟩
  simp [crateDecls, List.map_flatMap, List.flatMap_map, Function.comp_def]

/-- **The crate**: building a crate's modules extends the empty index by one block of rows per
type declaration, in order, each as `DeclRows` asks. -/
theorem build_extends (modules : List Module) (markers : MarkerSet) (root : String) :
    ∃ (ix : Index) (blocks : List (List (Node × Option SymbolId))),
      ({} : Index).Extends ix blocks.flatten ∧
      List.Forall₂ (DeclRows (OwnsIn ix.symbols)) blocks (crateDecls modules) ∧
      CrateIndex.build modules markers root = ⟨modules.map (·.ns), ix.nodes, ix.symbols⟩ := by
  obtain ⟨cx, pending, hdecls, hbuild⟩ := build_eq_foldl modules markers root
  obtain ⟨blocks, hext, hblocks⟩ := Index.foldl_extends (indexType cx)
    (fun owns rows (e : Module × Imports × TypeDecl) => DeclRows owns rows e.2.2)
    (fun howns _ _ => DeclRows.mono howns) pending
    (fun ⟨m, im, d⟩ _ _ h => indexType_extends cx m im h d) Index.wellKeyed_empty
  refine ⟨_, blocks, hext, ?_, hbuild⟩
  rw [← hdecls]
  exact List.forall₂_map_right_iff.2 hblocks

/-! ### What a well-keyed index tells its model -/

/-- In a table whose keys are distinct, the last row of a key is its only row. -/
theorem lastRow?_eq_of_mem {κ α : Type} [BEq κ] [LawfulBEq κ] {rows : List (κ × α)} {k : κ}
    {a : α} (hnodup : (rows.map (·.1)).Nodup) (h : (k, a) ∈ rows) : lastRow? rows k = some a :=
  Augment.List.lookup_eq_of_mem (by simpa using List.nodup_reverse.2 hnodup) (List.mem_reverse.2 h)

/-- A key without a row has no last row. -/
theorem lastRow?_eq_none {κ α : Type} [BEq κ] [LawfulBEq κ] {rows : List (κ × α)} {k : κ}
    (h : k ∉ rows.map (·.1)) : lastRow? rows k = none := by
  rw [lastRow?, List.lookup_eq_none_iff]
  intro p hp
  simpa using fun heq : k = p.1 => h (heq ▸ List.mem_map_of_mem (List.mem_reverse.1 hp))

namespace Index.WellKeyed

variable {ix : Index} (h : ix.WellKeyed)
include h

theorem rowKeys_nodup : ix.rowKeys.Nodup :=
  h.rowKeys_perm.nodup_iff.2 h.taken_nodup

theorem nodeIds_nodup : (ix.nodes.map (·.1.id)).Nodup := by
  have hkeys := (List.nodup_append.1 h.rowKeys_nodup).1
  exact List.Nodup.of_map NodeId.key (by simpa [List.map_map, Function.comp_def] using hkeys)

theorem symbolIds_nodup : (ix.symbols.map (·.1)).Nodup := by
  have hkeys := (List.nodup_append.1 h.rowKeys_nodup).2.1
  exact List.Nodup.of_map SymbolId.key (by simpa [List.map_map, Function.comp_def] using hkeys)

theorem symbol_ne_node : ∀ r ∈ ix.nodes, ∀ s ∈ ix.symbols, s.1.key ≠ r.1.id.key :=
  fun _ hr _ hs heq => (List.nodup_append.1 h.rowKeys_nodup).2.2 _ (List.mem_map_of_mem hr) _
    (List.mem_map_of_mem hs) heq.symm

/-- Ownership recorded in a symbol row is what the model answers: the symbol has no other row. -/
theorem containingType_of_ownsIn {s t : SymbolId} (hown : OwnsIn ix.symbols s t) :
    (SymbolModel.ofTables ix.nodes ix.symbols).containingType s = some t := by
  obtain ⟨e, he, howner⟩ := hown
  simp [SymbolModel.ofTables, lastRow?_eq_of_mem h.symbolIds_nodup he, howner]

/-- The symbol a node row is bound to is what the model answers: the node has no other row. -/
theorem declaredSymbol_of_mem {r : Node × Option SymbolId} (hr : r ∈ ix.nodes) :
    (SymbolModel.ofTables ix.nodes ix.symbols).declaredSymbol r.1.id = r.2 := by
  have hids : ((ix.nodes.map fun r => (r.1.id, r.2)).map (·.1)).Nodup := by
    simpa [List.map_map, Function.comp_def] using h.nodeIds_nodup
  simp [SymbolModel.ofTables, lastRow?_eq_of_mem hids (List.mem_map_of_mem hr)]

end Index.WellKeyed

/-- A model given by tables binds no symbol to a node without a row. -/
theorem declaredSymbol_ofTables_of_not_mem {nodes : List (Node × Option SymbolId)}
    {symbols : List (SymbolId × SymbolEntry)} {n : NodeId} (hn : n ∉ nodes.map (·.1.id)) :
    (SymbolModel.ofTables nodes symbols).declaredSymbol n = none := by
  have hids : n ∉ (nodes.map fun r => (r.1.id, r.2)).map (·.1) := by
    simpa [List.map_map, Function.comp_def] using hn
  simp [SymbolModel.ofTables, lastRow?_eq_none hids]

/-- **The node table follows the source.** For every crate, the build holds one block of rows per
struct, enum and union, module by module in tree order and item by item: the type's node bound to
its symbol, then for a struct one field node per named field and per positional field with an
attribute, in declaration order, counting the field's attributes and bound to a symbol exactly
when the field is named. Node identities are distinct, symbol identities are distinct and are no
node's, the symbols are those the nodes are bound to, the model binds exactly those, and every
field symbol belongs to the type whose node heads its block. -/
theorem build_follows_source (modules : List Module) (markers : MarkerSet) (root : String) :
    FollowsSource modules (CrateIndex.build modules markers root) := by
  obtain ⟨ix, blocks, hext, hblocks, hbuild⟩ := build_extends modules markers root
  have hkeyed := hext.keyed
  have hnodes : ix.nodes = blocks.flatten := by simpa using hext.nodes
  rw [hbuild]
  exact ⟨⟨blocks, hnodes, hblocks.imp fun _ _ =>
      DeclRows.mono fun _ _ hown => hkeyed.containingType_of_ownsIn hown⟩,
    hkeyed.nodeIds_nodup, hkeyed.symbolIds_nodup, hkeyed.symbol_ne_node, hkeyed.symbols_bound,
    fun _ hr => hkeyed.declaredSymbol_of_mem hr, fun _ hn => declaredSymbol_ofTables_of_not_mem hn⟩

end Augment.Source
