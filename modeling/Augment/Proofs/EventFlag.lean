import Augment.Expand.Notify
import Augment.Source.Index
import Augment.Record
import Augment.Proofs.AttributeLists
import Augment.Proofs.PatternCache

/-!
# The `generate_event` flag, read by the derive and by the build

A field's `generate_event` flag is read twice. The change-notification derive reads the options of
all the field's `notify_changed` helper attributes together (`fieldFlag`): the first
`generate_event` option sets it, written alone it means `true`, with a boolean that boolean, with a
string whether the string is `true`. The build reads the field's attributes as markers
(`fieldMarkers`) and takes the flag off the first marker with the change-notification identity
(`Marker.generateEvent`): the first `generate_event` argument when it is a boolean, else `false`.

The two agree when the flag is written where the build looks for it: in the first attribute that
the build reads as the marker, a helper attribute holding every option of the field, each written
plainly (alone or with a boolean literal). A string option is read differently, and so are options
spread over several helper attributes.

* `Expand.notifyErrors_eq_nil`, `Expand.fieldErrors_eq_nil`: the derive accepts an input when it
  reads as a declaration on which its checks (`Expand.notifyErrors`) find no error, and then every
  helper attribute holds only `generate_event` options (`Expand.OptionsRead`).
* `Source.generateEvent_of_optionsRead`: of such a helper attribute whose options are written
  plainly, the build reads the flag its options set.
* `Source.generateEvent_of_find_fieldMarkers`: so the marker the build finds on a field the derive
  accepts carries the derive's flag, when the flag is written where the build looks for it.
* `Source.build_symbols_owned`: every symbol row with an owner that a crate's build writes is the
  row of a named field of one of its structs.
* `Source.generateEvent_eq_fieldFlag`: every record the build reads is read off a named field of a
  struct of the crate, and carries the derive's flag of that field when the derive accepts the
  struct and the flag is written where the build looks for it.
-/

namespace Augment.Expand

open Augment.Rust

/-! ### What the derive accepts -/

/-- A run that threads a state through its steps and gathers their errors ends without errors only
if it started without any and every step made none, each from the state it was given. -/
theorem foldl_errors_eq_nil {σ ε γ : Type} (g : σ → γ → σ × List ε) :
    ∀ (l : List γ) (s : σ) (errs : List ε),
      (l.foldl (fun (s, errs) x => let (s, more) := g s x; (s, errs ++ more)) (s, errs)).2 = [] →
        errs = [] ∧ ∀ x ∈ l, ∃ s', (g s' x).2 = [] := by
  intro l
  induction l with
  | nil =>
    intro s errs h
    exact ⟨h, by simp⟩
  | cons x l ih =>
    intro s errs h
    rw [List.foldl_cons] at h
    obtain ⟨herrs, hrest⟩ := ih _ _ h
    obtain ⟨rfl, hx⟩ := List.append_eq_nil_iff.1 herrs
    refine ⟨rfl, fun y hy => ?_⟩
    rcases List.mem_cons.1 hy with rfl | hy
    · exact ⟨s, hx⟩
    · exact hrest y hy

/-- An option read without error is attribute contents named `generate_event`. -/
theorem readOption_errors_eq_nil {seen : Bool} {i : NestedMeta} (h : (readOption seen i).2 = []) :
    ∃ m, i = .contents m ∧ optionName m.path = "generate_event" := by
  cases i with
  | lit l => simp [readOption] at h
  | contents m =>
    by_cases hname : optionName m.path = "generate_event"
    · exact ⟨m, rfl, hname⟩
    · simp [readOption, hname] at h

/-- The options of a helper attribute read as attribute contents named `generate_event`: it is
written alone, or with a list that reads so. -/
def OptionsRead (a : Attribute) : Prop :=
  (∃ p, a.content = .bare p) ∨
    ∃ p d ts pos items, a.content = .list p d ts pos ∧ parseNestedMetaList ts pos = .ok items ∧
      ∀ i ∈ items, ∃ m, i = .contents m ∧ optionName m.path = "generate_event"

/-- A helper attribute read without error holds only `generate_event` options. -/
theorem readFieldAttr_errors_eq_nil {seen : Bool} {a : Attribute}
    (h : (readFieldAttr seen a).2 = []) (hhelper : a.content.path.isIdent "notify_changed" = true) :
    OptionsRead a := by
  unfold readFieldAttr at h
  rw [if_pos hhelper] at h
  rcases hc : a.content with p | ⟨p, d, ts, pos⟩ | ⟨p, v⟩ <;> rw [hc] at h <;> dsimp only at h
  · exact .inl ⟨p, hc⟩
  · split at h
    · simp at h
    · -- every option was read without error, from the state the options before it left
      rename_i items hparse
      have hitems := (foldl_errors_eq_nil readOption items seen [] h).2
      exact .inr ⟨p, d, ts, pos, items, hc, hparse, fun i hi =>
        let ⟨_, hs⟩ := hitems i hi
        readOption_errors_eq_nil hs⟩
  · simp at h

/-- Every helper attribute of a field the derive accepts holds only `generate_event` options. -/
theorem fieldErrors_eq_nil {f : Field} (h : fieldErrors f = []) :
    ∀ a ∈ f.attrs, a.content.path.isIdent "notify_changed" = true → OptionsRead a := by
  intro a ha hhelper
  obtain ⟨_, hs⟩ := (foldl_errors_eq_nil readFieldAttr f.attrs false [] h).2 a ha
  exact readFieldAttr_errors_eq_nil hs hhelper

/-- A declaration the derive accepts is a struct, and it accepts each of its fields. -/
theorem notifyErrors_eq_nil {d : TypeDecl} (h : notifyErrors d = []) :
    d.kind = .struct ∧ ∀ f ∈ d.fields.toList, fieldErrors f = [] := by
  unfold notifyErrors at h
  rcases hshape : shapeError d with _ | e <;> rw [hshape] at h <;> dsimp only at h
  · have hstruct : d.kind = .struct := by
      unfold shapeError at hshape
      split at hshape <;> first | assumption | cases hshape
    refine ⟨hstruct, fun f hf => ?_⟩
    -- a field with errors would make the derive's answer those errors
    split at h
    · rename_i hnil
      exact List.flatMap_eq_nil_iff.1 hnil f hf
    · rename_i errs hne
      exact absurd h hne
  · cases h

end Augment.Expand

namespace Augment

/-! ### What a record is made of -/

/-- **The record of a field node**, field by field: each is looked up in the model, the flag is
that of the first change-notification marker, and the guards on the type, its declared type and
the exposed name hold. -/
theorem fieldRecord?_eq_some_iff {model : SymbolModel} {markers : MarkerSet} {node : NodeId}
    {r : FieldRecord} :
    model.fieldRecord? markers node = some r ↔
      model.declaredSymbol node = some r.field ∧
      (∃ marker, (model.markers r.field).find? (·.path == markers.notifyChanged) = some marker ∧
        r.generateEvent = marker.generateEvent) ∧
      model.containingType r.field = some r.owner ∧ model.typeParameterCount r.owner = 0 ∧
      model.symbolName r.owner = some r.ownerName ∧ model.containingNamespace r.owner = some r.ns ∧
      model.symbolName r.field = some r.fieldName ∧ model.declaredType r.field = some r.ty ∧
      isTypeText r.ty = true ∧ r.exposedName = exposedName r.fieldName ∧
      isUsable r.exposedName = true := by
  obtain ⟨owner, ownerName, ns, field, fieldName, ty, exposed, ev⟩ := r
  have hfail : (failure : Option Unit) = none := rfl
  simp only [SymbolModel.fieldRecord?, Option.bind_eq_bind, Option.bind_eq_some_iff, guard, hfail,
    Option.ite_none_right_eq_some, Option.pure_def, Option.some.injEq, FieldRecord.mk.injEq,
    beq_iff_eq]
  constructor
  · rintro ⟨_, h1, marker, h2, _, h3, _, ⟨h4, -⟩, _, h5, _, h6, _, h7, _, h8, _, ⟨h9, -⟩, _, ⟨h10, -⟩,
      rfl, rfl, rfl, rfl, rfl, rfl, rfl, rfl⟩
    exact ⟨h1, ⟨marker, h2, rfl⟩, h3, h4, h5, h6, h7, h8, h9, rfl, h10⟩
  · rintro ⟨h1, ⟨marker, h2, rfl⟩, h3, h4, h5, h6, h7, h8, h9, rfl, h10⟩
    exact ⟨_, h1, marker, h2, _, h3, (), ⟨h4, trivial⟩, _, h5, _, h6, _, h7, _, h8, (), ⟨h9, trivial⟩, (),
      ⟨h10, trivial⟩, rfl, rfl, rfl, rfl, rfl, rfl, rfl, rfl⟩

/-- A symbol with an owner in a model given by tables has a row, the last of its rows, and what
the model says of it is what that row says. -/
theorem ofTables_row_of_containingType {nodes : List (Node × Option SymbolId)}
    {symbols : List (SymbolId × SymbolEntry)} {s o : SymbolId}
    (h : (SymbolModel.ofTables nodes symbols).containingType s = some o) :
    ∃ e, (s, e) ∈ symbols ∧ e.owner = some o ∧
      (SymbolModel.ofTables nodes symbols).markers s = e.markers ∧
      (SymbolModel.ofTables nodes symbols).symbolName s = e.name := by
  simp only [SymbolModel.ofTables, lastRow?] at h ⊢
  rcases hrow : symbols.reverse.lookup s with _ | e
  · simp [hrow] at h
  · refine ⟨e, List.mem_reverse.1 (Augment.List.mem_of_lookup_eq_some hrow), ?_, ?_, ?_⟩ <;>
      simp_all

end Augment

namespace Augment.Source

open Augment.Rust Augment.Expand

/-! ### What the build reads off a helper attribute -/

/-- An option written the way the build reads it: the plain name `generate_event`, alone or with a
boolean. -/
def PlainFlag : Meta → Prop
  | .bare p => p.getIdent = some "generate_event"
  | .nameValue p v => p.getIdent = some "generate_event" ∧ ∃ l, v.kind = .lit l ∧ l.kind = .bool
  | .list .. => False

/-- The argument the build reads off a plainly written `generate_event` option carries the flag the
derive reads off it. -/
theorem markerArgs_cons_of_plainFlag {m : Meta} (h : PlainFlag m) (rest : List Meta) :
    ∃ more, (m :: rest).filterMap (fun m => match m with
        | .bare p => p.getIdent.map fun n => (n, ArgValue.bool true)
        | .nameValue p v => p.getIdent.map fun n => (n, argValue v)
        | .list _ _ _ _ => none) =
      ("generate_event", .bool (optionFlag m)) :: more := by
  cases m with
  | bare p =>
    simp only [PlainFlag] at h
    simp [h, optionFlag]
  | nameValue p v =>
    obtain ⟨hp, l, hv, hl⟩ := h
    simp [hp, argValue, optionFlag, hv, hl]
  | list => exact h.elim

/-- **A helper attribute read as the derive reads it**: when the derive accepts a helper attribute
and each of its options is written plainly, the flag of the marker the build makes of it is the
flag its options set. -/
theorem generateEvent_of_optionsRead {a : Attribute} (path : MarkerPath) (hread : OptionsRead a)
    (hplain : ∀ m, .contents m ∈ helperOptions a → PlainFlag m)
    (hhelper : a.content.path.isIdent "notify_changed" = true) :
    ({ path, args := markerArgs a } : Marker).generateEvent = optionsFlag (helperOptions a) := by
  rcases hread with ⟨p, hc⟩ | ⟨p, d, ts, pos, items, hc, hparse, hitems⟩
  · -- written alone: no options and no arguments
    simp [Marker.generateEvent, Marker.arg, markerArgs, helperOptions, hc, optionsFlag]
  · -- the build reads the same options, as attribute contents
    obtain ⟨ms, hms, rfl⟩ := parseMetaList_of_parseNestedMetaList hparse
      (fun i hi => (hitems i hi).imp fun _ h => h.1)
    have hopts : helperOptions a = ms.map .contents := by
      rw [helperOptions, if_pos hhelper, hc]
      simp only [hparse]
    rw [hopts] at hplain ⊢
    cases ms with
    | nil => simp [Marker.generateEvent, Marker.arg, markerArgs, hc, hms, optionsFlag]
    | cons m rest =>
      obtain ⟨more, hargs⟩ := markerArgs_cons_of_plainFlag (hplain m (by simp)) rest
      have hname : optionName m.path = "generate_event" := by
        obtain ⟨_, hm, hn⟩ := hitems (.contents m) (by simp)
        cases hm
        exact hn
      have hmarker : markerArgs a = ("generate_event", .bool (optionFlag m)) :: more := by
        rw [markerArgs, hc]
        simp only [hms]
        exact hargs
      simp [Marker.generateEvent, Marker.arg, hmarker, generateEventArg, ArgValue.asBool,
        optionsFlag, generateEventOption?, hname]

/-- The field's `generate_event` flag is written where the build looks for it: the first of its
attributes that the build reads as the change-notification marker is a helper attribute, it holds
every option of the field's helper attributes, and each is written plainly. -/
def FlagWrittenFirst (im : Imports) (markers : MarkerSet) (derives : List MarkerPath) (f : Field) :
    Prop :=
  ∃ a, f.attrs.find? (fun a => fieldMarkerPath im markers derives a == markers.notifyChanged) =
      some a ∧
    a.content.path.isIdent "notify_changed" = true ∧
    f.attrs.flatMap helperOptions = helperOptions a ∧
    ∀ m, .contents m ∈ helperOptions a → PlainFlag m

/-- **One field**: the change-notification marker the build finds on a field that the derive
accepts carries the derive's flag, when the flag is written where the build looks for it. -/
theorem generateEvent_of_find_fieldMarkers {im : Imports} {markers : MarkerSet}
    {derives : List MarkerPath} {f : Field} (herrs : fieldErrors f = [])
    (hfirst : FlagWrittenFirst im markers derives f) {marker : Marker}
    (hfind : (fieldMarkers im markers derives f).find? (·.path == markers.notifyChanged) =
      some marker) :
    marker.generateEvent = fieldFlag f := by
  obtain ⟨a, ha, hhelper, hall, hplain⟩ := hfirst
  -- the marker found is the one made of the first attribute read as the marker
  rw [fieldMarkers, List.find?_map] at hfind
  simp only [Function.comp_def] at hfind
  rw [ha] at hfind
  cases hfind
  have hread := fieldErrors_eq_nil herrs a (List.mem_of_find?_eq_some ha) hhelper
  rw [generateEvent_of_optionsRead _ hread hplain hhelper, fieldFlag, hall]

/-! ### Where the build's field rows come from -/

/-- A symbol entry that the build wrote for a named field, with the markers it reads off the
field's attributes. -/
def FieldEntryOf (im : Imports) (markers : MarkerSet) (derives : List MarkerPath) (f : Field)
    (e : SymbolEntry) : Prop :=
  ∃ name pos, f.ident = some (name, pos) ∧ e.name = some name ∧
    e.markers = fieldMarkers im markers derives f

/-- A run of steps that each add only symbol rows satisfying `P` adds only such rows. -/
theorem foldl_symbols_mem {γ : Type} (step : Index → γ → Index)
    (P : SymbolId × SymbolEntry → Prop) (l : List γ)
    (hstep : ∀ x ∈ l, ∀ ix, ∀ r ∈ (step ix x).symbols, r ∈ ix.symbols ∨ P r) :
    ∀ ix, ∀ r ∈ (l.foldl step ix).symbols, r ∈ ix.symbols ∨ P r := by
  induction l with
  | nil => exact fun ix r hr => .inl hr
  | cons x l ih =>
    intro ix r hr
    rw [List.foldl_cons] at hr
    rcases ih (fun y hy => hstep y (by simp [hy])) (step ix x) r hr with hr | hP
    · exact hstep x (by simp) ix r hr
    · exact .inr hP

/-- **One field**: indexing a field adds at most one symbol row, the field's own, owned by the
type. -/
theorem indexField_symbols (cx : CrateContext) (m : Module) (im : Imports) (owner : SymbolId)
    (fq : String) (derives : List MarkerPath) (rev : Revision) (ix : Index) (i : Nat) (f : Field) :
    ∀ r ∈ (indexField cx m im owner fq derives rev ix (i, f)).symbols, r ∈ ix.symbols ∨
      r.2.owner = some owner ∧ FieldEntryOf im cx.markers derives f r.2 := by
  intro r hr
  unfold indexField at hr
  dsimp only at hr
  split at hr
  · -- a positional field declares no symbol
    split at hr
    · exact .inl hr
    · exact .inl (by simpa [Index.declareUnbound, Index.allocate] using hr)
  · rename_i name pos hident
    simp only [Index.declare, Index.allocate, List.mem_append, List.mem_singleton] at hr
    rcases hr with hr | rfl
    · exact .inl hr
    · exact .inr ⟨rfl, name, pos, hident, rfl, rfl⟩

/-- **The fields of a type**: indexing them adds the rows of named fields among them, owned by the
type. -/
theorem foldl_indexField_symbols (cx : CrateContext) (m : Module) (im : Imports)
    (owner : SymbolId) (fq : String) (derives : List MarkerPath) (rev : Revision)
    (fields : List Field) (ix : Index) :
    ∀ r ∈ ((fields.zipIdx).foldl (fun ix x => indexField cx m im owner fq derives rev ix (x.2, x.1))
        ix).symbols, r ∈ ix.symbols ∨
      r.2.owner = some owner ∧ ∃ f ∈ fields, FieldEntryOf im cx.markers derives f r.2 :=
  foldl_symbols_mem _ _ _ (fun x hx ix r hr =>
    (indexField_symbols cx m im owner fq derives rev ix x.2 x.1 r hr).imp_right
      fun h => ⟨h.1, x.1, List.fst_mem_of_mem_zipIdx hx, h.2⟩) ix

/-- **One type**: indexing a type adds symbol rows of which those with an owner are the rows of
named fields of the type, which is a struct. -/
theorem indexType_symbols (cx : CrateContext) (ix : Index) (m : Module) (im : Imports)
    (d : TypeDecl) :
    ∀ r ∈ (indexType cx ix (m, im, d)).symbols, r ∈ ix.symbols ∨ (r.2.owner ≠ none →
      d.kind = .struct ∧
        ∃ f ∈ d.fields.toList, FieldEntryOf im cx.markers (derivePaths im cx.markers d.attrs) f r.2) := by
  intro r hr
  unfold indexType at hr
  dsimp only at hr
  rcases foldl_indexField_symbols _ _ _ _ _ _ _ _ _ r hr with hr | ⟨-, f, hf, hentry⟩
  · -- the type's own row has no owner
    simp only [Index.declare, Index.allocate, List.mem_append, List.mem_singleton] at hr
    rcases hr with hr | rfl
    · exact .inl hr
    · exact .inr fun howner => absurd rfl howner
  · -- a field row: the type is a struct, as only a struct's fields are indexed
    have hstruct : d.kind = .struct := by
      by_contra hne
      simp [hne] at hf
    exact .inr fun _ => ⟨hstruct, f, by simpa [hstruct] using hf, hentry⟩

/-- The imports of a module of a crate, as the build collects them: the crate is named by its first
module. -/
def moduleImports (modules : List Module) (m : Module) : Imports :=
  Imports.collect m.items ((modules.head?.map (·.ns)).getD "") m.ns

/-- A symbol entry the build wrote for a named field of a struct declared in one of a crate's
modules. -/
def FieldRowOf (modules : List Module) (markers : MarkerSet) (e : SymbolEntry) : Prop :=
  ∃ m ∈ modules, ∃ d ∈ typeDecls m.items, d.kind = .struct ∧ ∃ f ∈ d.fields.toList,
    FieldEntryOf (moduleImports modules m) markers
      (derivePaths (moduleImports modules m) markers d.attrs) f e

/-- **The crate**: every symbol row with an owner that the build of a crate writes is the row of a
named field of a struct declared in one of its modules. -/
theorem build_symbols_owned (modules : List Module) (markers : MarkerSet) (root : String) :
    ∀ r ∈ (CrateIndex.build modules markers root).symbols, r.2.owner ≠ none →
      FieldRowOf modules markers r.2 := by
  intro r hr
  unfold CrateIndex.build at hr
  dsimp only at hr
  refine (foldl_symbols_mem _ (fun r => r.2.owner ≠ none → FieldRowOf modules markers r.2) _ ?_ {}
    r hr).resolve_left (by simp)
  -- every declaration indexed is one of a module's, with that module's imports
  rintro ⟨m, im, d⟩ hx ix r hr
  simp only [List.mem_flatMap, List.mem_map, Prod.mk.injEq] at hx
  obtain ⟨⟨m', im'⟩, ⟨m'', hm'', hpair⟩, d', hd', rfl, rfl, rfl⟩ := hx
  obtain ⟨rfl, rfl⟩ := hpair
  exact (indexType_symbols _ ix m' _ d' r hr).imp_right fun h howner =>
    let ⟨hstruct, f, hf, hentry⟩ := h howner
    ⟨m', hm'', d', hd', hstruct, f, hf, hentry⟩

/-! ### The record's flag -/

/-- **The build reads the derive's flag.** Every record the build of a crate reads off a field node
is read off a named field `f` of a struct `d` declared in one of its modules: it bears the field's
name, and the markers of its symbol are those the build reads off `f`. When the derive accepts
`d` and `f`'s flag is written where the build looks for it (the first attribute the build reads
as the marker is a helper attribute holding all of `f`'s options, each written alone or with a
boolean), the record's `generate_event` flag is the one the derive reads off `f`. -/
theorem generateEvent_eq_fieldFlag {modules : List Module} {markers : MarkerSet} {root : String}
    {node : NodeId} {r : FieldRecord}
    (hr : (CrateIndex.build modules markers root).model.fieldRecord? markers node = some r) :
    ∃ m ∈ modules, ∃ d ∈ typeDecls m.items, d.kind = .struct ∧ ∃ f ∈ d.fields.toList,
      f.ident.map Prod.fst = some r.fieldName ∧
      (CrateIndex.build modules markers root).model.markers r.field =
        fieldMarkers (moduleImports modules m) markers
          (derivePaths (moduleImports modules m) markers d.attrs) f ∧
      (notifyErrors d = [] →
        FlagWrittenFirst (moduleImports modules m) markers
          (derivePaths (moduleImports modules m) markers d.attrs) f →
        r.generateEvent = fieldFlag f) := by
  obtain ⟨-, ⟨marker, hfind, hflag⟩, howner, -, -, -, hname, -⟩ := fieldRecord?_eq_some_iff.1 hr
  -- the record's field symbol has an owner, so its row is a field row
  obtain ⟨e, hrow, heowner, hmarkers, hename⟩ := ofTables_row_of_containingType howner
  obtain ⟨m, hm, d, hd, hstruct, f, hf, name, pos, hident, hentryName, hentryMarkers⟩ :=
    build_symbols_owned modules markers root _ hrow (by simp [heowner])
  have hfieldName : r.fieldName = name := by
    rw [CrateIndex.model, hename, hentryName] at hname
    exact (Option.some.inj hname).symm
  refine ⟨m, hm, d, hd, hstruct, f, hf, by simp [hident, hfieldName], ?_, fun herrs hfirst => ?_⟩
  · rw [CrateIndex.model, hmarkers, hentryMarkers]
  · rw [CrateIndex.model, hmarkers, hentryMarkers] at hfind
    rw [hflag]
    exact generateEvent_of_find_fieldMarkers ((notifyErrors_eq_nil herrs).2 f hf) hfirst hfind

/-- `#[derive(graft::NotifyChanged)]` -/
def notifyDeriveAttr : Attribute :=
  ⟨.outer, .list (Path.ofIdent "derive" {}) .paren
    [.ident "graft" {}, .punct ':' .joint {}, .punct ':' .alone {}, .ident "NotifyChanged" {}] {}⟩

/-- `#[notify_changed(generate_event)] count: i32` -/
def countField : Field :=
  ⟨[⟨.outer, .list (Path.ofIdent "notify_changed" {}) .paren [.ident "generate_event" {}] {}⟩],
    some ("count", {}), ⟨.other, [.ident "i32" {}]⟩⟩

/-- `#[derive(graft::NotifyChanged)] struct Counter { #[notify_changed(generate_event)] count: i32 }` -/
def counterStruct : TypeDecl :=
  { kind := .struct, attrs := [notifyDeriveAttr], ident := "Counter", pos := {}, generics := {},
    fields := .named [countField], tokens := [] }

/-- A crate of one module `app` declaring `Counter`. -/
def counterCrate : List Module := [⟨"app", "src/lib.rs", [.decl counterStruct]⟩]

/-- The record of `Counter::count`: an event of its own. -/
def counterRecord : FieldRecord :=
  { owner := ⟨"symbol:type:app::Counter"⟩, ownerName := "Counter", ns := "app",
    field := ⟨"symbol:field:app::Counter::count"⟩, fieldName := "count", ty := "i32",
    exposedName := "Count", generateEvent := true }

theorem isTypeText_i32 : isTypeText "i32" = true := by
  -- the lexer runs by well-founded recursion, which the kernel does not evaluate by `decide`
  have hlex : lexText "i32" = .ok [.ident "i32" ⟨1, 0⟩] := by with_unfolding_all rfl
  have hcount : TokenStream.treeCount [.ident "i32" ⟨1, 0⟩] = 1 := by simp [TokenStream.treeCount]
  simp only [isTypeText, parseType, bind, Except.bind, hlex, grammarFor, hcount]
  decide +kernel

/-- The build reads `Counter::count` as a field with an event of its own. The derive accepts
`Counter`, the flag of `count` is written where the build looks for it, and the record's flag is
the derive's. -/
theorem generateEvent_eq_fieldFlag_counter :
    (CrateIndex.build counterCrate (.ofCrate defaultMarkerCrate) "").model.fieldRecord?
        (.ofCrate defaultMarkerCrate) ⟨"node:field:app::Counter::count"⟩ = some counterRecord ∧
      notifyErrors counterStruct = [] ∧
      FlagWrittenFirst (moduleImports counterCrate counterCrate.head!) (.ofCrate defaultMarkerCrate)
        (derivePaths (moduleImports counterCrate counterCrate.head!) (.ofCrate defaultMarkerCrate)
          counterStruct.attrs) countField ∧
      fieldFlag countField = true ∧ counterRecord.generateEvent = fieldFlag countField := by
  have hr : (CrateIndex.build counterCrate (.ofCrate defaultMarkerCrate) "").model.fieldRecord?
      (.ofCrate defaultMarkerCrate) ⟨"node:field:app::Counter::count"⟩ = some counterRecord :=
    fieldRecord?_eq_some_iff.2 ⟨by decide +kernel,
      ⟨⟨⟨"graft::notify_changed"⟩, [("generate_event", .bool true)]⟩, by decide +kernel, rfl⟩,
      by decide +kernel, by decide +kernel, by decide +kernel, by decide +kernel, by decide +kernel,
      by decide +kernel, isTypeText_i32, by decide +kernel, by decide +kernel⟩
  have herrs : notifyErrors counterStruct = [] := by decide +kernel
  have hopts : helperOptions countField.attrs.head! =
      [.contents (.bare (Path.ofIdent "generate_event" {}))] := by with_unfolding_all rfl
  have hfirst : FlagWrittenFirst (moduleImports counterCrate counterCrate.head!)
      (.ofCrate defaultMarkerCrate) (derivePaths (moduleImports counterCrate counterCrate.head!)
        (.ofCrate defaultMarkerCrate) counterStruct.attrs) countField := by
    refine ⟨countField.attrs.head!, by with_unfolding_all rfl, by decide +kernel,
      by with_unfolding_all rfl, ?_⟩
    intro m hm
    rw [hopts, List.mem_singleton] at hm
    cases hm
    with_unfolding_all rfl
  -- the crate has one module, declaring one struct with one field: the theorem speaks of them
  obtain ⟨m, hm, d, hd, -, f, hf, -, -, hflag⟩ := generateEvent_eq_fieldFlag hr
  simp only [counterCrate, List.mem_singleton] at hm
  subst hm
  simp only [typeDecls, List.filterMap_cons, List.filterMap_nil, List.mem_singleton] at hd
  subst hd
  simp only [counterStruct, Fields.toList, List.mem_singleton] at hf
  subst hf
  exact ⟨hr, herrs, hfirst, by decide +kernel, hflag herrs hfirst⟩

end Augment.Source
