import Augment.Proofs.Fresh

/-!
# A field's identity and its type's symbol

The index of a crate gives every node a key made of what it declares (`node:type:P`,
`node:field:P::x`, `node:field:P#0` for a positional field), with the first free suffix `#1`,
`#2`, ... when the key is taken; all nodes of a type get the type's revision. A field's symbol
records the symbol of its type as its owner.

The keys of a field never look at the keys of its type. So when a declaration of the same path
comes first (the same type written twice under different `cfg` attributes), the type's node and
symbol move to `node:type:P#1` and `symbol:type:P#1`, while its fields keep their identities and
revisions: only the owner written in their symbols moves. A record read off such a field node is
then not determined by the node's identity and revision, which is what a cache of records keyed
by them relies on.

* `Source.IsFieldKey`, `Source.FieldKeysAgree`: the keys a field is allocated under, and two taken
  lists that hold the same such keys.
* `Source.freshKey_field_congr`: a field key is allocated alike in two taken lists that agree on
  field keys.
* `Source.indexField_sim`, `Source.foldl_indexField_sim`: indexing fields on two such states appends
  the same keys and node rows, and the same symbol rows up to their owner.
* `Source.repeated_path_moves_field_owner`: a fieldless declaration of the same path before a type
  leaves the rows of the type's fields as they were and moves the owner of every field symbol from
  `symbol:type:P` to `symbol:type:P#1`.
-/

namespace Augment.Source

open Augment.Rust

/-! ### Field keys -/

/-- A key that a field's node or symbol is allocated under. -/
def IsFieldKey (k : String) : Prop :=
  ∃ s, k = "node:" ++ ("field:" ++ s) ∨ k = "symbol:" ++ ("field:" ++ s)

/-- Two taken lists that hold the same field keys. -/
def FieldKeysAgree (taken taken' : List String) : Prop :=
  ∀ k, IsFieldKey k → (k ∈ taken ↔ k ∈ taken')

theorem isFieldKey_suffixedKey {k : String} (h : IsFieldKey k) (n : Nat) :
    IsFieldKey (suffixedKey k n) := by
  obtain ⟨s, rfl | rfl⟩ := h
  · exact ⟨s ++ "#" ++ toString (n + 1), .inl (by simp [suffixedKey, String.append_assoc])⟩
  · exact ⟨s ++ "#" ++ toString (n + 1), .inr (by simp [suffixedKey, String.append_assoc])⟩

theorem not_isFieldKey_node_type (s : String) : ¬IsFieldKey ("node:" ++ ("type:" ++ s)) := by
  rintro ⟨t, h | h⟩ <;> have := congrArg String.toList h <;> simp at this

theorem not_isFieldKey_symbol_type (s : String) : ¬IsFieldKey ("symbol:" ++ ("type:" ++ s)) := by
  rintro ⟨t, h | h⟩ <;> have := congrArg String.toList h <;> simp at this

/-- A key allocated for a key with a given prefix keeps the prefix. -/
theorem freshKey_append_left (taken : List String) (p key : String) :
    ∃ s, freshKey taken (p ++ key) = p ++ s := by
  rcases freshKey_eq_or taken (p ++ key) with h | ⟨n, h⟩
  · exact ⟨key, h⟩
  · exact ⟨key ++ "#" ++ toString (n + 1), by simp [h, suffixedKey, String.append_assoc]⟩

/-- The key allocated for a type's node is no field key. -/
theorem not_isFieldKey_freshKey_node_type (taken : List String) (path : String) :
    ¬IsFieldKey (freshKey taken ("node:" ++ ("type:" ++ path))) := by
  rcases freshKey_eq_or taken ("node:" ++ ("type:" ++ path)) with h | ⟨n, h⟩
  · rw [h]
    exact not_isFieldKey_node_type path
  · rw [h, show suffixedKey ("node:" ++ ("type:" ++ path)) n =
      "node:" ++ ("type:" ++ (path ++ "#" ++ toString (n + 1))) by
        simp [suffixedKey, String.append_assoc]]
    exact not_isFieldKey_node_type _

/-- A field key is allocated alike in two taken lists that agree on field keys. -/
theorem freshKey_field_congr {taken taken' : List String} {k : String}
    (h : FieldKeysAgree taken taken') (hk : IsFieldKey k) : freshKey taken k = freshKey taken' k :=
  freshKey_congr (h k hk) fun n => h _ (isFieldKey_suffixedKey hk n)

theorem FieldKeysAgree.append {taken taken' : List String} (h : FieldKeysAgree taken taken')
    (keys : List String) : FieldKeysAgree (taken ++ keys) (taken' ++ keys) := by
  intro k hk
  simp only [List.mem_append, h k hk]

/-- Keys that are no field keys do not change which field keys are taken. -/
theorem fieldKeysAgree_append_of_not {taken : List String} {keys : List String}
    (hkeys : ∀ k ∈ keys, ¬IsFieldKey k) : FieldKeysAgree taken (taken ++ keys) := by
  intro k hk
  simp only [List.mem_append, iff_self_or]
  exact fun hmem => absurd hk (hkeys k hmem)

/-! ### Indexing fields on two states -/

/-- A symbol row with another owner. -/
def withOwner (o : SymbolId) (r : SymbolId × SymbolEntry) : SymbolId × SymbolEntry :=
  (r.1, { r.2 with owner := some o })

section Fields

variable (cx : CrateContext) (m : Module) (im : Imports) (fq : String) (derives : List MarkerPath)
  (rev : Revision)

theorem declare_eq (ix : Index) (key : String) (kind : NodeKind) (rev : Revision)
    (entry : SymbolEntry) :
    ix.declare key kind rev entry =
      (⟨ix.taken ++ [freshKey ix.taken ("node:" ++ key),
          freshKey (ix.taken ++ [freshKey ix.taken ("node:" ++ key)]) ("symbol:" ++ key)],
        ix.nodes ++ [({ id := ⟨freshKey ix.taken ("node:" ++ key)⟩, kind, revision := rev },
          some ⟨freshKey (ix.taken ++ [freshKey ix.taken ("node:" ++ key)]) ("symbol:" ++ key)⟩)],
        ix.symbols ++ [(⟨freshKey (ix.taken ++ [freshKey ix.taken ("node:" ++ key)])
          ("symbol:" ++ key)⟩, entry)]⟩,
        ⟨freshKey (ix.taken ++ [freshKey ix.taken ("node:" ++ key)]) ("symbol:" ++ key)⟩) := by
  simp [Index.declare, Index.allocate]

/-- **The step**: indexing one field on two states that agree on field keys appends the same keys
and node rows to both, and the same symbol rows up to the owner they record. -/
theorem indexField_sim (o o' : SymbolId) {ix ix' : Index} (h : FieldKeysAgree ix.taken ix'.taken)
    (e : Nat × Field) :
    ∃ keys nodes symbols,
      indexField cx m im o fq derives rev ix e = ⟨ix.taken ++ keys, ix.nodes ++ nodes,
        ix.symbols ++ symbols⟩ ∧
      indexField cx m im o' fq derives rev ix' e = ⟨ix'.taken ++ keys, ix'.nodes ++ nodes,
        ix'.symbols ++ symbols.map (withOwner o')⟩ ∧
      ∀ r ∈ symbols, r.2.owner = some o := by
  obtain ⟨i, f⟩ := e
  unfold indexField
  dsimp only
  split
  · -- a positional field: a node without a symbol, when it has attributes
    split
    · exact ⟨[], [], [], by simp, by simp, by simp⟩
    · have hk : IsFieldKey ("node:" ++ ("field:" ++ fq ++ "#" ++ toString i)) :=
        ⟨fq ++ "#" ++ toString i, .inl (by simp only [String.append_assoc])⟩
      have hnode := freshKey_field_congr h hk
      simp only [Index.declareUnbound, Index.allocate, ← hnode]
      set k := freshKey ix.taken ("node:" ++ ("field:" ++ fq ++ "#" ++ toString i))
      exact ⟨[k], [({ id := ⟨k⟩, kind := .field f.attrs.length, revision := rev }, none)], [],
        by simp, by simp, by simp⟩
  · -- a named field: a node and a symbol, which records the owner
    rename_i name pos _
    have hk : IsFieldKey ("node:" ++ ("field:" ++ fq ++ "::" ++ name)) :=
      ⟨fq ++ "::" ++ name, .inl (by simp only [String.append_assoc])⟩
    have hks : IsFieldKey ("symbol:" ++ ("field:" ++ fq ++ "::" ++ name)) :=
      ⟨fq ++ "::" ++ name, .inr (by simp only [String.append_assoc])⟩
    have hnode := freshKey_field_congr h hk
    have hsymbol := freshKey_field_congr
      (h.append [freshKey ix.taken ("node:" ++ ("field:" ++ fq ++ "::" ++ name))]) hks
    rw [declare_eq, declare_eq, ← hnode, ← hsymbol]
    exact ⟨_, _, _, rfl, rfl, by simp⟩

/-- Two index states that agree on field keys and, past their first `n` and `n'` node rows and
their first `s` and `s'` symbol rows, hold the same node rows, and the same symbol rows up to the
owner they record: `o` in the first state, `o'` in the second. -/
structure FieldSim (o o' : SymbolId) (n n' s s' : Nat) (ix ix' : Index) : Prop where
  taken : FieldKeysAgree ix.taken ix'.taken
  nodes_le : n ≤ ix.nodes.length ∧ n' ≤ ix'.nodes.length
  symbols_le : s ≤ ix.symbols.length ∧ s' ≤ ix'.symbols.length
  nodes : ix'.nodes.drop n' = ix.nodes.drop n
  symbols : ix'.symbols.drop s' = (ix.symbols.drop s).map (withOwner o')
  owner : ∀ r ∈ ix.symbols.drop s, r.2.owner = some o

variable {cx m im fq derives rev} in
/-- **The step**: indexing one field keeps two states related. -/
theorem FieldSim.indexField {o o' : SymbolId} {n n' s s' : Nat} {ix ix' : Index}
    (h : FieldSim o o' n n' s s' ix ix') (e : Nat × Field) :
    FieldSim o o' n n' s s' (indexField cx m im o fq derives rev ix e)
      (indexField cx m im o' fq derives rev ix' e) := by
  obtain ⟨keys, nodes, symbols, h₁, h₂, howner⟩ :=
    indexField_sim cx m im fq derives rev o o' h.taken e
  rw [h₁, h₂]
  have hnodes := h.nodes_le
  have hsymbols := h.symbols_le
  refine ⟨h.taken.append keys, ?_, ?_, ?_, ?_, ?_⟩
  · simp only [List.length_append]
    omega
  · simp only [List.length_append, List.length_map]
    omega
  · simp only
    rw [List.drop_append_of_le_length h.nodes_le.2, List.drop_append_of_le_length h.nodes_le.1,
      h.nodes]
  · simp only
    rw [List.drop_append_of_le_length h.symbols_le.2, List.drop_append_of_le_length h.symbols_le.1,
      h.symbols, List.map_append]
  · simp only
    rw [List.drop_append_of_le_length h.symbols_le.1]
    intro r hr
    rcases List.mem_append.1 hr with hr | hr
    · exact h.owner r hr
    · exact howner r hr

variable {cx m im fq derives rev} in
/-- **The run**: indexing the same fields keeps two states related. -/
theorem FieldSim.foldl {o o' : SymbolId} {n n' s s' : Nat} (fields : List (Field × Nat))
    {ix ix' : Index} (h : FieldSim o o' n n' s s' ix ix') :
    FieldSim o o' n n' s s'
      (fields.foldl (fun ix e => Source.indexField cx m im o fq derives rev ix (e.2, e.1)) ix)
      (fields.foldl (fun ix e => Source.indexField cx m im o' fq derives rev ix (e.2, e.1)) ix') := by
  induction fields generalizing ix ix' with
  | nil => exact h
  | cons e rest ih => exact ih (h.indexField (e.2, e.1))

end Fields

/-! ### A type's symbol -/

/-- The symbol a type of the path `path` is declared under when the keys `taken` are taken: the
key `symbol:type:path`, or its first free suffixed form. -/
def typeSymbol (taken : List String) (path : String) : SymbolId :=
  ⟨freshKey (taken ++ [freshKey taken ("node:" ++ ("type:" ++ path))])
    ("symbol:" ++ ("type:" ++ path))⟩

theorem node_ne_symbol (s t : String) : "node:" ++ s ≠ "symbol:" ++ t := by
  intro h
  have := congrArg String.toList h
  simp at this

theorem suffixedKey_zero (key : String) : suffixedKey key 0 = key ++ "#1" := by
  simp [suffixedKey, String.append_assoc]
  rfl

theorem append_one_ne_self (key : String) : key ++ "#1" ≠ key := by
  intro h
  have := congrArg String.length h
  simp at this

/-- A type whose symbol key is free is declared under it. -/
theorem typeSymbol_of_not_mem {taken : List String} {path : String}
    (h : "symbol:" ++ ("type:" ++ path) ∉ taken) :
    typeSymbol taken path = ⟨"symbol:" ++ ("type:" ++ path)⟩ := by
  obtain ⟨s, hs⟩ := freshKey_append_left taken "node:" ("type:" ++ path)
  rw [typeSymbol, hs, freshKey_of_not_mem]
  simp [h, Ne.symm (node_ne_symbol s _)]

/-- A type whose symbol key is taken, and the key `#1` after it free, is declared under that. -/
theorem typeSymbol_of_mem {taken : List String} {path : String}
    (h : "symbol:" ++ ("type:" ++ path) ∈ taken)
    (hfree : "symbol:" ++ ("type:" ++ path) ++ "#1" ∉ taken) :
    typeSymbol taken path = ⟨"symbol:" ++ ("type:" ++ path) ++ "#1"⟩ := by
  obtain ⟨s, hs⟩ := freshKey_append_left taken "node:" ("type:" ++ path)
  rw [typeSymbol, hs, ← suffixedKey_zero, freshKey_of_mem_of_not_mem (by simp [h])]
  rw [suffixedKey_zero, String.append_assoc]
  simp only [List.mem_append, List.mem_singleton, not_or]
  exact ⟨by rwa [← String.append_assoc], Ne.symm (node_ne_symbol s _)⟩

/-- The keys a type is declared under are no field keys. -/
theorem not_isFieldKey_typeSymbol (taken : List String) (path : String) :
    ¬IsFieldKey (typeSymbol taken path).key := by
  rcases freshKey_eq_or (taken ++ [freshKey taken ("node:" ++ ("type:" ++ path))])
    ("symbol:" ++ ("type:" ++ path)) with h | ⟨n, h⟩
  · rw [typeSymbol, h]
    exact not_isFieldKey_symbol_type path
  · rw [typeSymbol, h, show suffixedKey ("symbol:" ++ ("type:" ++ path)) n =
      "symbol:" ++ ("type:" ++ (path ++ "#" ++ toString (n + 1))) by
        simp [suffixedKey, String.append_assoc]]
    exact not_isFieldKey_symbol_type _

/-! ### A type indexed on two states -/

/-- **Indexing a type on two states that agree on field keys** gives its fields the same node
rows in both, and the same symbol rows up to their owner, which is the type's symbol on each
state. -/
theorem indexType_fieldSim (cx : CrateContext) (m : Module) (im : Imports) (d : TypeDecl)
    {ix ix' : Index} (h : FieldKeysAgree ix.taken ix'.taken) :
    FieldSim (typeSymbol ix.taken (m.ns ++ "::" ++ d.ident))
      (typeSymbol ix'.taken (m.ns ++ "::" ++ d.ident))
      (ix.nodes.length + 1) (ix'.nodes.length + 1) (ix.symbols.length + 1)
      (ix'.symbols.length + 1) (indexType cx ix (m, im, d)) (indexType cx ix' (m, im, d)) := by
  simp only [indexType, declare_eq]
  apply FieldSim.foldl
  -- the type's own keys are no field keys, so the states still agree on field keys
  have hagree : FieldKeysAgree
      (ix.taken ++ [freshKey ix.taken ("node:" ++ ("type:" ++ (m.ns ++ "::" ++ d.ident))),
        (typeSymbol ix.taken (m.ns ++ "::" ++ d.ident)).key])
      (ix'.taken ++ [freshKey ix'.taken ("node:" ++ ("type:" ++ (m.ns ++ "::" ++ d.ident))),
        (typeSymbol ix'.taken (m.ns ++ "::" ++ d.ident)).key]) := by
    intro k hk
    have hne : ∀ taken : List String,
        k ≠ freshKey taken ("node:" ++ ("type:" ++ (m.ns ++ "::" ++ d.ident))) ∧
          k ≠ (typeSymbol taken (m.ns ++ "::" ++ d.ident)).key := fun taken =>
      ⟨fun heq => not_isFieldKey_freshKey_node_type taken _ (heq ▸ hk),
        fun heq => not_isFieldKey_typeSymbol taken _ (heq ▸ hk)⟩
    simp only [List.mem_append, List.mem_cons, List.not_mem_nil, or_false, (hne ix.taken).1,
      (hne ix.taken).2, (hne ix'.taken).1, (hne ix'.taken).2, h k hk]
  exact ⟨hagree, by simp, by simp, by simp, by simp, by simp⟩

/-- A declaration without fields adds its type's node and symbol, and nothing else. -/
theorem indexType_of_fieldless (cx : CrateContext) (ix : Index) (m : Module) (im : Imports)
    (d : TypeDecl) (h : d.kind ≠ .struct ∨ d.fields.toList = []) :
    (indexType cx ix (m, im, d)).taken = ix.taken ++
        [freshKey ix.taken ("node:" ++ ("type:" ++ (m.ns ++ "::" ++ d.ident))),
          (typeSymbol ix.taken (m.ns ++ "::" ++ d.ident)).key] ∧
      (indexType cx ix (m, im, d)).nodes.length = ix.nodes.length + 1 ∧
      (indexType cx ix (m, im, d)).symbols.length = ix.symbols.length + 1 := by
  have hnone : (if (d.kind == DeclKind.struct) = true then d.fields.toList else []) = [] := by
    rcases h with h | h <;> simp [h]
  simp only [indexType, declare_eq, hnone, List.zipIdx_nil, List.foldl_nil]
  exact ⟨rfl, by simp, by simp⟩

/-- **A repeated path moves the owner of the fields.** Index a type alone, or after a fieldless
declaration of the same path (the same type written again under other `cfg` attributes). Its
fields get the same node rows either way, identities and revisions included, and the same symbol
rows but for the owner: `symbol:type:P` alone, `symbol:type:P#1` after the other declaration. A
field node with one identity and one revision in two builds then gives records with two owners. -/
theorem repeated_path_moves_field_owner (cx : CrateContext) (ix : Index)
    (m₀ : Module) (im₀ : Imports) (d₀ : TypeDecl) (m : Module) (im : Imports) (d : TypeDecl)
    (hpath : m₀.ns ++ "::" ++ d₀.ident = m.ns ++ "::" ++ d.ident)
    (hfieldless : d₀.kind ≠ .struct ∨ d₀.fields.toList = [])
    (hfree : "symbol:" ++ ("type:" ++ (m.ns ++ "::" ++ d.ident)) ∉ ix.taken ∧
      "symbol:" ++ ("type:" ++ (m.ns ++ "::" ++ d.ident)) ++ "#1" ∉ ix.taken) :
    (indexType cx (indexType cx ix (m₀, im₀, d₀)) (m, im, d)).nodes.drop (ix.nodes.length + 2) =
        (indexType cx ix (m, im, d)).nodes.drop (ix.nodes.length + 1) ∧
      (indexType cx (indexType cx ix (m₀, im₀, d₀)) (m, im, d)).symbols.drop
          (ix.symbols.length + 2) =
        ((indexType cx ix (m, im, d)).symbols.drop (ix.symbols.length + 1)).map
          (withOwner ⟨"symbol:" ++ ("type:" ++ (m.ns ++ "::" ++ d.ident)) ++ "#1"⟩) ∧
      ∀ r ∈ (indexType cx ix (m, im, d)).symbols.drop (ix.symbols.length + 1),
        r.2.owner = some ⟨"symbol:" ++ ("type:" ++ (m.ns ++ "::" ++ d.ident))⟩ := by
  obtain ⟨hsymbol, hsuffixed⟩ := hfree
  obtain ⟨htaken₀, hnodes₀, hsymbols₀⟩ := indexType_of_fieldless cx ix m₀ im₀ d₀ hfieldless
  rw [hpath] at htaken₀
  -- the earlier declaration takes `symbol:type:P` under a node key, both no field keys
  obtain ⟨s₀, hs₀⟩ := freshKey_append_left ix.taken "node:" ("type:" ++ (m.ns ++ "::" ++ d.ident))
  have hsymbolAlone := typeSymbol_of_not_mem hsymbol
  rw [hs₀, hsymbolAlone] at htaken₀
  have hagree : FieldKeysAgree ix.taken (indexType cx ix (m₀, im₀, d₀)).taken := by
    rw [htaken₀]
    refine fieldKeysAgree_append_of_not fun k hk => ?_
    rcases List.mem_cons.1 hk with rfl | hk
    · have := not_isFieldKey_freshKey_node_type ix.taken (m.ns ++ "::" ++ d.ident)
      rwa [hs₀] at this
    · rw [List.mem_singleton.1 hk]
      exact not_isFieldKey_symbol_type _
  -- so the type itself is declared under `symbol:type:P#1`
  have hsymbolAfter : typeSymbol (indexType cx ix (m₀, im₀, d₀)).taken (m.ns ++ "::" ++ d.ident) =
      ⟨"symbol:" ++ ("type:" ++ (m.ns ++ "::" ++ d.ident)) ++ "#1"⟩ := by
    rw [htaken₀]
    refine typeSymbol_of_mem (by simp) ?_
    simp only [List.mem_append, List.mem_cons, List.not_mem_nil, or_false, not_or]
    refine ⟨hsuffixed, fun heq => node_ne_symbol s₀ (("type:" ++ (m.ns ++ "::" ++ d.ident)) ++ "#1")
      (by rw [← heq, String.append_assoc]), append_one_ne_self _⟩
  have hsim := indexType_fieldSim cx m im d hagree
  rw [hsymbolAlone, hsymbolAfter, hnodes₀, hsymbols₀] at hsim
  exact ⟨hsim.nodes, hsim.symbols, hsim.owner⟩

/-- The module `app` of a crate, and its imports, for the declarations below. -/
def appModule : Module := { ns := "app", file := "src/lib.rs", items := [] }

/-- The imports of the module `app`: none. -/
def appImports : Imports := { crateName := "app", ns := "app" }

/-- `enum A {}` -/
def enumA : TypeDecl :=
  { kind := .enum, attrs := [], ident := "A", pos := {}, generics := {}, fields := .unit,
    tokens := [] }

/-- `struct A { x: i32 }` -/
def structA : TypeDecl :=
  { kind := .struct, attrs := [], ident := "A", pos := {}, generics := {},
    fields := .named [{ attrs := [], ident := some ("x", {}), ty := { shape := .other, tokens := [] } }],
    tokens := [] }

/-- `struct A { x: i32 }` after `enum A {}` in a fresh crate: the field `x` keeps its row, and its
symbol records `symbol:type:app::A#1` where indexed alone it records `symbol:type:app::A`. -/
theorem repeated_path_moves_field_owner_app :
    appModule.ns ++ "::" ++ enumA.ident = appModule.ns ++ "::" ++ structA.ident ∧
      (enumA.kind ≠ .struct ∨ enumA.fields.toList = []) ∧
      ("symbol:" ++ ("type:" ++ (appModule.ns ++ "::" ++ structA.ident)) ∉ ({} : Index).taken ∧
        "symbol:" ++ ("type:" ++ (appModule.ns ++ "::" ++ structA.ident)) ++ "#1" ∉
          ({} : Index).taken) ∧
      ((indexType ⟨MarkerSet.ofCrate defaultMarkerCrate, "", []⟩
          (indexType ⟨MarkerSet.ofCrate defaultMarkerCrate, "", []⟩ {}
            (appModule, appImports, enumA)) (appModule, appImports, structA)).nodes.drop 2 =
          (indexType ⟨MarkerSet.ofCrate defaultMarkerCrate, "", []⟩ {}
            (appModule, appImports, structA)).nodes.drop 1 ∧
        (indexType ⟨MarkerSet.ofCrate defaultMarkerCrate, "", []⟩
          (indexType ⟨MarkerSet.ofCrate defaultMarkerCrate, "", []⟩ {}
            (appModule, appImports, enumA)) (appModule, appImports, structA)).symbols.drop 2 =
          ((indexType ⟨MarkerSet.ofCrate defaultMarkerCrate, "", []⟩ {}
            (appModule, appImports, structA)).symbols.drop 1).map
            (withOwner ⟨"symbol:" ++ ("type:" ++ (appModule.ns ++ "::" ++ structA.ident)) ++ "#1"⟩) ∧
        ∀ r ∈ (indexType ⟨MarkerSet.ofCrate defaultMarkerCrate, "", []⟩ {}
            (appModule, appImports, structA)).symbols.drop 1,
          r.2.owner = some ⟨"symbol:" ++ ("type:" ++ (appModule.ns ++ "::" ++ structA.ident))⟩) :=
  ⟨rfl, .inl (by decide), ⟨by simp, by simp⟩,
    repeated_path_moves_field_owner ⟨MarkerSet.ofCrate defaultMarkerCrate, "", []⟩ {} appModule
      appImports enumA appModule appImports structA rfl (.inl (by decide)) ⟨by simp, by simp⟩⟩

end Augment.Source
