import Augment.Proofs.Idents.Symbols
import Augment.Proofs.Idents.Config
import Augment.Proofs.NotifyMembers
import Augment.Proofs.Session
import Augment.Proofs.SourceFiles

/-!
# Rendering a validated build never fails on a name

Rendering turns the names of a fragment into identifier tokens, and stops at the first name that
no identifier spells. Each name comes from one of three places: the options (the accessor and the
marker crate), the records of the symbol model (a type, its constructor, a field), and the
exposed name of a field, from which the getter, the setter and the event members are derived.

* `Member.Writable`, `Fragment.Writable`: every name a member or fragment hands to `Ident.ofName`
  is writable, and every exposed name is ASCII and usable; `Fragment.render_ok`: such a fragment
  renders.
* `singletonFragment_writable`, `notifyFragment_writable`: the patterns build such fragments from
  writable records under options that name writable things.
* `PatternCache.Holds`, `PatternCache.pass_holds`: a pass keeps a cache of writable records and
  fragments so, as long as every record it reads afresh is writable.
* `Generator.Writable`, `generate_writable`: a generator whose caches hold writable records and
  fragments finishes every pass without an identifier error, and keeps its caches so.
* `generate_renders_validated_build`: for a crate read from ASCII sources and the options of an
  accepted configuration, generation never fails on a name.
-/

namespace Augment

open Augment.Rust Augment.Source Augment.Fragment

/-! ### Members and fragments -/

/-- A member whose names identifiers spell: every name it hands to `Ident.ofName` is writable,
and every exposed name it derives member names from is ASCII and usable. -/
def Member.Writable : Member → Prop
  | .instanceAccessor accessor ctor _ => Ident.Writable accessor ∧ Ident.Writable ctor
  | .constructor name => Ident.Writable name
  | .singletonTrait crateName accessor => Ident.Writable crateName ∧ Ident.Writable accessor
  | .changeRegistry => True
  | .property field exposed _ _ =>
    Ident.Writable field ∧ Text.isAsciiText exposed = true ∧ isUsable exposed = true
  | .propertyEvent exposed => Text.isAsciiText exposed = true ∧ isUsable exposed = true
  | .notifyTrait crateName => Ident.Writable crateName

/-- A fragment whose type's name is writable and whose members are. -/
def Fragment.Writable (f : Fragment) : Prop :=
  Ident.Writable f.ownerName ∧ ∀ m ∈ f.members, m.Writable

/-- A property over an ASCII usable exposed name has code, whatever its field token and type. -/
theorem propertyCode_ok (field : TokenTree) {exposed : String} (ty : String) (event : Bool)
    (hascii : Text.isAsciiText exposed = true) (husable : isUsable exposed = true) :
    ∃ r, propertyCode field exposed ty event = .ok r := by
  obtain ⟨⟨getter, hgetter⟩, ⟨setter, hsetter⟩, ⟨onEvent, honEvent⟩, -⟩ :=
    usable_names_writable hascii husable
  unfold propertyCode
  split
  · exact ⟨none, rfl⟩
  · cases event <;>
      simp [hgetter, hsetter, honEvent, bind, Except.bind, pure, Except.pure]

theorem Member.inherentCode_ok {m : Member} (h : m.Writable) (owner : TokenTree) :
    ∃ r, m.inherentCode owner = .ok r := by
  cases m with
  | instanceAccessor accessor ctor init =>
    obtain ⟨⟨a, ha⟩, ⟨c, hc⟩⟩ := h
    simp [Member.inherentCode, ha, hc, bind, Except.bind, pure, Except.pure]
  | constructor name =>
    obtain ⟨c, hc⟩ := h
    simp [Member.inherentCode, hc, bind, Except.bind, pure, Except.pure]
  | singletonTrait => exact ⟨none, rfl⟩
  | changeRegistry => exact ⟨_, rfl⟩
  | property field exposed ty event =>
    obtain ⟨⟨t, ht⟩, hascii, husable⟩ := h
    obtain ⟨r, hr⟩ := propertyCode_ok t ty event hascii husable
    exact ⟨r, by simp [Member.inherentCode, ht, hr, bind, Except.bind]⟩
  | propertyEvent exposed =>
    obtain ⟨hascii, husable⟩ := h
    obtain ⟨ts, hts⟩ := (usable_names_writable hascii husable).2.2.2
    exact ⟨some ts, by rw [Member.inherentCode, hts]; rfl⟩
  | notifyTrait => exact ⟨none, rfl⟩

theorem Member.outerCode_ok {m : Member} (h : m.Writable) (owner : TokenTree) :
    ∃ r, m.outerCode owner = .ok r := by
  cases m with
  | singletonTrait crateName accessor =>
    obtain ⟨⟨c, hc⟩, ⟨a, ha⟩⟩ := h
    simp [Member.outerCode, ha, hc, bind, Except.bind, pure, Except.pure]
  | notifyTrait crateName =>
    obtain ⟨c, hc⟩ := h
    simp [Member.outerCode, hc, bind, Except.bind, pure, Except.pure]
  | _ => exact ⟨none, rfl⟩

/-- A monadic filter-map whose every step succeeds succeeds. -/
theorem filterMapM_ok {α β ε : Type} {f : α → Except ε (Option β)} :
    ∀ {l : List α}, (∀ a ∈ l, ∃ b, f a = .ok b) → ∃ bs, l.filterMapM f = .ok bs
  | [], _ => ⟨[], rfl⟩
  | a :: l, h => by
    obtain ⟨b, hb⟩ := h a List.mem_cons_self
    obtain ⟨bs, hbs⟩ := filterMapM_ok fun x hx => h x (List.mem_cons_of_mem _ hx)
    rw [List.filterMapM_cons, hb]
    cases b <;> simp [hbs, bind, Except.bind, pure, Except.pure]

/-- A monadic map whose every step succeeds succeeds. -/
theorem mapM_ok {α β ε : Type} {f : α → Except ε β} :
    ∀ {l : List α}, (∀ a ∈ l, ∃ b, f a = .ok b) → ∃ bs, l.mapM f = .ok bs
  | [], _ => ⟨[], rfl⟩
  | a :: l, h => by
    obtain ⟨b, hb⟩ := h a List.mem_cons_self
    obtain ⟨bs, hbs⟩ := mapM_ok fun x hx => h x (List.mem_cons_of_mem _ hx)
    rw [List.mapM_cons, hb, hbs]
    exact ⟨_, rfl⟩

/-- **A writable fragment renders**: the type's name, then each member's inherent and outer
code. -/
theorem Fragment.render_ok {f : Fragment} (h : f.Writable) : ∃ ts, f.render = .ok ts := by
  obtain ⟨⟨owner, howner⟩, hmembers⟩ := h
  obtain ⟨inherent, hinherent⟩ := filterMapM_ok fun m hm =>
    Member.inherentCode_ok (hmembers m hm) owner
  obtain ⟨outer, houter⟩ := filterMapM_ok fun m hm => Member.outerCode_ok (hmembers m hm) owner
  simp [Fragment.render, renderMembers, howner, hinherent, houter, bind, Except.bind, pure,
    Except.pure]

/-! ### What the patterns build -/

theorem singletonFragment_writable {opts : Options} (ho : opts.Writable)
    {g : OwnerGroup TypeRecord} (hg : g.first.Writable) {f : Fragment}
    (hf : singletonFragment opts.singleton opts.markers g = some f) : f.Writable := by
  -- the accessor comes first, so the fragment is never empty
  simp only [singletonFragment, Fragment.ofMembers?, List.cons_append, List.nil_append,
    List.isEmpty_cons, Bool.false_eq_true, if_false, Option.some.injEq] at hf
  subst hf
  refine ⟨hg.1, ?_⟩
  intro m hm
  simp only [List.mem_cons, List.mem_append, List.mem_ite_nil_right, List.not_mem_nil,
    or_false] at hm
  rcases hm with rfl | ⟨-, rfl⟩ | ⟨-, rfl⟩
  · exact ⟨ho.accessor, hg.2⟩
  · exact hg.2
  · exact ⟨ho.crateName, ho.accessor⟩

/-- Every property of the loop over the observed fields is the property of one of them. -/
theorem mem_propertyMembers {taken : List String} {fs : List FieldRecord} {m : Member}
    (hm : m ∈ (propertyMembers taken fs).1) :
    ∃ f ∈ fs, ∃ ev, m = .property f.fieldName f.exposedName f.ty ev := by
  -- on the fields, as the loop takes them
  induction fs generalizing taken with
  | nil => simp [propertyMembers] at hm
  | cons f rest ih =>
    rw [propertyMembers_cons] at hm
    cases hout : fieldOutcome taken f with
    | none =>
      simp only [hout] at hm
      obtain ⟨f', hf', ev, rfl⟩ := ih hm
      exact ⟨f', List.mem_cons_of_mem _ hf', ev, rfl⟩
    | some ev =>
      simp only [hout] at hm
      rcases List.mem_cons.1 hm with rfl | hm
      · exact ⟨f, List.mem_cons_self, ev, rfl⟩
      · obtain ⟨f', hf', ev', rfl⟩ := ih hm
        exact ⟨f', List.mem_cons_of_mem _ hf', ev', rfl⟩

theorem notifyFragment_writable {opts : Options} (ho : opts.Writable)
    {g : OwnerGroup FieldRecord} (hg : ∀ r ∈ g.members, r.Writable) {f : Fragment}
    (hf : notifyFragment opts.notify opts.markers g = some f) : f.Writable := by
  have hfirst : g.first.Writable := hg g.first (by simp [OwnerGroup.members])
  -- every property and event comes from one of the group's records
  have hprop : ∀ m ∈ (propertyMembers registryNames g.members).1, m.Writable := by
    intro m hm
    obtain ⟨r, hr, ev, rfl⟩ := mem_propertyMembers hm
    exact ⟨(hg r hr).fieldName, (hg r hr).exposedAscii, (hg r hr).exposedUsable⟩
  have hevent : ∀ e ∈ (propertyMembers registryNames g.members).2,
      (Member.propertyEvent e).Writable := by
    intro e he
    obtain ⟨field, ty, hm⟩ := (mem_events_iff _ _ e).1 he
    obtain ⟨r, hr, ev, heq⟩ := mem_propertyMembers hm
    cases heq
    exact ⟨(hg r hr).exposedAscii, (hg r hr).exposedUsable⟩
  unfold notifyFragment at hf
  generalize propertyMembers registryNames g.members = pm at hf hprop hevent
  obtain ⟨props, events⟩ := pm
  -- the change registry comes first, so the fragment is never empty
  simp only [Fragment.ofMembers?, List.cons_append, List.nil_append, List.isEmpty_cons,
    Bool.false_eq_true, if_false, Option.some.injEq] at hf
  subst hf
  refine ⟨hfirst.ownerName, ?_⟩
  intro m hm
  simp only [List.mem_cons, List.mem_append, List.mem_map, List.mem_ite_nil_right,
    List.not_mem_nil, or_false] at hm
  rcases hm with rfl | (hm | ⟨e, he, rfl⟩) | ⟨-, rfl⟩
  · trivial
  · exact hprop m hm
  · exact hevent e he
  · exact ho.crateName

/-! ### Files -/

/-- A file of fragments that all render is assembled. -/
theorem assembleFile_ok (ns : String) (pattern : Pattern) {frs : List Fragment}
    (h : ∀ f ∈ frs, ∃ ts, f.render = .ok ts) : ∃ file, assembleFile ns pattern frs = .ok file := by
  obtain ⟨streams, hstreams⟩ := mapM_ok h
  unfold assembleFile
  rw [mapM_map_ok, hstreams]
  exact ⟨_, rfl⟩

/-- **The files of fragments that all render are assembled**: each file holds fragments of the
pass only. -/
theorem assembleFiles_ok {frs : List Fragment} (h : ∀ f ∈ frs, ∃ ts, f.render = .ok ts) :
    ∃ files, assembleFiles frs = .ok files := by
  have hgrouped : FileGrouped frs ((fileGroups frs).mergeSort fun a b => fileKeyLE a.1 b.1) :=
    (fileGrouped_fileGroups frs).perm (List.mergeSort_perm _ _).symm
  have hgroups : ∀ e ∈ (fileGroups frs).mergeSort (fun a b => fileKeyLE a.1 b.1),
      ∃ file, assembleFile e.1.1 e.1.2 e.2 = .ok file := by
    intro e he
    refine assembleFile_ok e.1.1 e.1.2 fun f hf => h f ?_
    rw [hgrouped.members e he] at hf
    exact List.mem_of_mem_filter hf
  obtain ⟨files, hfiles⟩ := mapM_ok hgroups
  unfold assembleFiles
  simp [hfiles, bind, Except.bind, pure, Except.pure]

/-! ### Caches -/

namespace PatternCache

variable {α : Type}

/-- A cache whose remembered records all satisfy `R`, and whose remembered fragments `F`. -/
structure Holds (R : α → Prop) (F : Fragment → Prop) (c : PatternCache α) : Prop where
  records : ∀ e ∈ c.extracted, ∀ r, e.2.record = some r → R r
  fragments : ∀ e ∈ c.rendered, ∀ f, e.2.fragment = some f → F f

/-- A cache that remembers nothing holds of anything. -/
theorem holds_empty (R : α → Prop) (F : Fragment → Prop) : ({} : PatternCache α).Holds R F :=
  ⟨by simp, by simp⟩

variable {R : α → Prop} {F : Fragment → Prop} {c : PatternCache α} {p : PatternRun α}

/-- A record a pass reads, afresh or remembered, satisfies `R` when every record read afresh
off the node does. -/
theorem recordOf_holds (hc : c.Holds R F) {n : Node}
    (hn : ∀ r, p.extract n.id = some r → R r) : ∀ r, (c.recordOf p n).1 = some r → R r := by
  intro r hr
  unfold recordOf at hr
  split at hr
  · rename_i hit hlookup
    split at hr
    · exact hc.records _ (List.mem_of_lookup_eq_some hlookup) r hr
    · exact hn r hr
  · exact hn r hr

variable [DecidableEq α]

/-- A fragment a pass builds or takes from the cache satisfies `F` when the one the pattern
builds afresh does. -/
theorem fragmentOf_holds (hc : c.Holds R F) {g : OwnerGroup α}
    (hg : ∀ f, p.synthesize g = some f → F f) : ∀ f, (c.fragmentOf p g).1 = some f → F f := by
  intro f hf
  unfold fragmentOf at hf
  split at hf
  · rename_i hit hlookup
    split at hf
    · exact hc.fragments _ (List.mem_of_lookup_eq_some hlookup) f hf
    · exact hg f hf
  · exact hg f hf

/-- **One pass keeps a cache good**: when every record the pattern reads afresh off a candidate
satisfies `R`, and the pattern builds fragments satisfying `F` from groups of such records, every
fragment of the pass satisfies `F`, and the cache it leaves holds of `R` and `F` again. -/
theorem pass_holds (hc : c.Holds R F) {model : SymbolModel}
    (hext : ∀ n ∈ model.nodes, p.isCandidate n = true → ∀ r, p.extract n.id = some r → R r)
    (hsyn : ∀ g : OwnerGroup α, (∀ r ∈ g.members, R r) → ∀ f, p.synthesize g = some f → F f) :
    (∀ f ∈ (c.pass p model).1, F f) ∧ (c.pass p model).2.2.Holds R F := by
  -- every record the pass reads, afresh or from the cache, satisfies `R`
  have hread : ∀ n ∈ model.nodes.filter p.isCandidate, ∀ r, (c.recordOf p n).1 = some r → R r := by
    intro n hn
    obtain ⟨hn, hcand⟩ := List.mem_filter.1 hn
    exact recordOf_holds hc (hext n hn hcand)
  -- so does every record of an owner group, since the groups hold exactly the records read
  have hgroups : ∀ g ∈ groupByOwner p.ownerOf
      (((model.nodes.filter p.isCandidate).map fun n => (n, c.recordOf p n)).filterMap
        fun r => r.2.1), ∀ r ∈ g.members, R r := by
    intro g hg r hr
    have hmem := (OwnerGroup.flatMap_members_groupByOwner_perm p.ownerOf _).mem_iff.1
      (List.mem_flatMap.2 ⟨g, hg, hr⟩)
    simp only [List.mem_filterMap, List.mem_map] at hmem
    obtain ⟨_, ⟨n, hn, rfl⟩, hr⟩ := hmem
    exact hread n hn r hr
  refine ⟨?_, ⟨?_, ?_⟩⟩
  · intro f hf
    simp only [pass, List.mem_filterMap, List.mem_map] at hf
    obtain ⟨_, ⟨g, hg, rfl⟩, hf⟩ := hf
    exact fragmentOf_holds hc (hsyn g (hgroups g hg)) f hf
  · intro e he r hr
    simp only [pass, List.mem_reverse, List.mem_map] at he
    obtain ⟨_, ⟨n, hn, rfl⟩, rfl⟩ := he
    exact hread n hn r hr
  · intro e he f hf
    simp only [pass, List.mem_map] at he
    obtain ⟨_, ⟨g, hg, rfl⟩, rfl⟩ := he
    exact fragmentOf_holds hc (hsyn g (hgroups g hg)) f hf

/-- A pass that fails was cancelled, before it read a candidate. -/
theorem run_eq_error {model : SymbolModel} {b : Bool} {e : GenerationError}
    (h : c.run p model b = .error e) : e = .cancelled 0 := by
  unfold run at h
  split at h
  · cases h
    rfl
  · cases h

end PatternCache

/-- The singleton rule's check fails only when it is cancelled. -/
theorem validate_eq_error {markers : MarkerSet} {model : SymbolModel} {b : Bool}
    {e : GenerationError} (h : validate markers model b = .error e) : e = .cancelled 0 := by
  unfold validate at h
  dsimp only at h
  split at h
  · cases h
    rfl
  · cases h

/-! ### Passes of the generator -/

namespace Generator

open PatternCache

/-- A generator whose options name writable things, and whose caches remember writable records
and writable fragments. -/
structure Writable (g : Generator) : Prop where
  options : g.options.Writable
  singleton : g.singleton.Holds TypeRecord.Writable Fragment.Writable
  notify : g.notify.Holds FieldRecord.Writable Fragment.Writable

theorem writable_ofOptions {opts : Options} (h : opts.Writable) : (ofOptions opts).Writable :=
  ⟨h, holds_empty _ _, holds_empty _ _⟩

variable {g : Generator} {model : SymbolModel}

section Passes

variable (hg : g.Writable) (hm : model.RecordsWritable g.options.markers)
include hg hm

theorem singleton_pass_holds :
    (∀ f ∈ (g.singleton.pass (singletonRun g.options model) model).1, f.Writable) ∧
      (g.singleton.pass (singletonRun g.options model) model).2.2.Holds TypeRecord.Writable
        Fragment.Writable :=
  pass_holds hg.singleton hm.types fun grp hgrp _ hf =>
    singletonFragment_writable hg.options (hgrp grp.first (by simp [OwnerGroup.members])) hf

theorem notify_pass_holds :
    (∀ f ∈ (g.notify.pass (notifyRun g.options model) model).1, f.Writable) ∧
      (g.notify.pass (notifyRun g.options model) model).2.2.Holds FieldRecord.Writable
        Fragment.Writable :=
  pass_holds hg.notify (fun n _ _ r hr => hm.fields n.id r hr) fun _ hgrp _ hf =>
    notifyFragment_writable hg.options hgrp hf

/-- Every fragment a pass synthesizes renders. -/
theorem passFragments_render : ∀ f ∈ g.passFragments model, ∃ ts, f.render = .ok ts := by
  intro f hf
  rcases List.mem_append.1 hf with hf | hf
  · exact Fragment.render_ok ((singleton_pass_holds hg hm).1 f hf)
  · exact Fragment.render_ok ((notify_pass_holds hg hm).1 f hf)

/-- **One pass** leaves a writable generator writable: each cache it keeps or takes holds only
writable records and fragments. -/
theorem generate_writable (b : Bool) : (g.generate model b).1.Writable := by
  obtain ⟨hopts, hs, hn⟩ := generate_fst g model b
  refine ⟨hopts ▸ hg.options, ?_, ?_⟩
  · rcases hs with hs | hs <;> rw [hs]
    · exact hg.singleton
    · exact (singleton_pass_holds hg hm).2
  · rcases hn with hn | hn <;> rw [hn]
    · exact hg.notify
    · exact (notify_pass_holds hg hm).2

/-- **A pass of a writable generator fails on no name**: it returns an output unless it is
cancelled, since every fragment it synthesizes renders. -/
theorem generate_ok_or_cancelled (b : Bool) :
    (∃ o, (g.generate model b).2 = .ok o) ∨ (g.generate model b).2 = .error (.cancelled 0) := by
  obtain ⟨files, hfiles⟩ := assembleFiles_ok (passFragments_render hg hm)
  unfold generate
  split
  · rename_i e hs
    exact .inr (by rw [run_eq_error hs])
  · rename_i singles singleStats singleCache hs
    obtain ⟨rfl, -, -⟩ := run_eq_ok hs
    dsimp only
    split
    · rename_i e hn
      exact .inr (by rw [run_eq_error hn])
    · rename_i notes noteStats noteCache hn
      obtain ⟨rfl, -, -⟩ := run_eq_ok hn
      rw [passFragments] at hfiles
      -- the output waits for the singleton rule's check, then for the files
      cases hv : validate g.options.markers model b with
      | error e =>
        obtain rfl := validate_eq_error hv
        exact .inr rfl
      | ok d =>
        simp [hfiles, Except.mapError, bind, Except.bind, pure, Except.pure]

end Passes

/-- **The run**: over models whose records are writable under its markers, every pass of a
session of a writable generator returns an output unless it is cancelled. The induction is on
the passes; `generate_writable` carries writability past each one. -/
theorem session_ok_or_cancelled (g : Generator) (hg : g.Writable)
    (passes : List (SymbolModel × Bool))
    (hm : ∀ pass ∈ passes, pass.1.RecordsWritable g.options.markers) :
    ∀ out ∈ g.session passes, (∃ o, out = .ok o) ∨ out = .error (.cancelled 0) := by
  induction passes generalizing g with
  | nil => simp [session]
  | cons pass rest ih =>
    obtain ⟨model, b⟩ := pass
    have hm₀ := hm _ List.mem_cons_self
    intro out hout
    rcases List.mem_cons.1 hout with rfl | hout
    · exact generate_ok_or_cancelled hg hm₀ b
    · have hopts := (generate_fst g model b).1
      refine ih _ (generate_writable hg hm₀ b) (fun pass hp => ?_) out hout
      rw [hopts]
      exact hm pass (List.mem_cons_of_mem _ hp)

end Generator

open Augment.Source in
/-- **Generation over validated builds fails on no name.** Take the options of a configuration
that parses, and a session of a generator built from them over crates read from texts whose
identifiers are ASCII, each built under the options' markers and run cancelled or not. Every pass
returns an output unless it is cancelled: every fragment it synthesizes renders, with every name
of a type, field, getter, setter, event member, accessor, marker crate or constructor written as
an identifier. In particular every ASCII exposed name that `isUsable` accepts has a getter and a
setter that `Ident.ofName` writes and event members that `Ident.exact` writes. -/
theorem validated_session_fails_on_no_name {path toml : String} {c : Config}
    (hc : Config.parse path toml = .ok c) (builds : List (List Module × String × Bool))
    (hascii : ∀ b ∈ builds, AsciiSourced b.1) :
    (∀ out ∈ (Generator.ofOptions c.options).session
        (builds.map fun b => ((CrateIndex.build b.1 c.options.markers b.2.1).model, b.2.2)),
      (∃ o, out = .ok o) ∨ out = .error (.cancelled 0)) ∧
    ∀ exposed, Text.isAsciiText exposed = true → isUsable exposed = true →
      Ident.Writable (getterName exposed) ∧ Ident.Writable (setterName exposed) ∧
        ∃ ts, eventCode exposed = .ok ts := by
  have hg := Generator.writable_ofOptions (Config.options_writable (Config.validate_of_parse hc))
  refine ⟨Generator.session_ok_or_cancelled _ hg _ fun pass hpass => ?_, ?_⟩
  · obtain ⟨b, hb, rfl⟩ := List.mem_map.1 hpass
    exact build_records_writable (hascii b hb).named _ _ _
  · intro exposed hascii husable
    obtain ⟨hgetter, hsetter, -, hevent⟩ := usable_names_writable hascii husable
    exact ⟨hgetter, hsetter, hevent⟩

/-- A crate root declaring one type with one observed field. -/
def widgetSource : String :=
  "pub struct Widget \x7b\n    #[graft::notify_changed]\n    count: i32,\n\x7d\n"

/-- The token trees of `widgetSource`. -/
def widgetTokens : TokenStream :=
  [.ident "pub" ⟨1, 0⟩, .ident "struct" ⟨1, 4⟩, .ident "Widget" ⟨1, 11⟩,
   .group .brace
     [.punct '#' .alone ⟨2, 4⟩,
      .group .bracket [.ident "graft" ⟨2, 6⟩, .punct ':' .joint ⟨2, 11⟩, .punct ':' .alone ⟨2, 12⟩,
        .ident "notify_changed" ⟨2, 13⟩] ⟨2, 5⟩ ⟨2, 27⟩,
      .ident "count" ⟨3, 4⟩, .punct ':' .alone ⟨3, 9⟩, .ident "i32" ⟨3, 11⟩,
      .punct ',' .alone ⟨3, 14⟩] ⟨1, 18⟩ ⟨4, 0⟩]

theorem lex_widgetSource : lex (stripFileHeader widgetSource) = .ok widgetTokens := by
  with_unfolding_all rfl

theorem identsAscii_widgetSource : IdentsAscii widgetSource := by
  intro ts h
  rw [lex_widgetSource] at h
  cases h
  unfold TokenStream.IdentsAll
  decide +kernel

theorem modulesOfSource_widgetSource_ok :
    ∃ modules, Source.modulesOfSource "src/lib.rs" widgetSource "app" = .ok modules := by
  -- the kernel cannot count token trees (a recursion on sizes), so the depth of the grammar is
  -- put in before it evaluates the parse
  have hcount : widgetTokens.treeCount = 14 := by simp [widgetTokens, TokenStream.treeCount]
  have hok : (Source.modulesOfSource "src/lib.rs" widgetSource "app").isOk = true := by
    simp only [Source.modulesOfSource, parseFile, lexText, lex_widgetSource, bind, Except.bind,
      grammarFor, hcount]
    decide +kernel
  cases h : Source.modulesOfSource "src/lib.rs" widgetSource "app" with
  | ok modules => exact ⟨modules, rfl⟩
  | error e => simp [h, Except.isOk, Except.toBool] at hok

open Augment.Source in
/-- Two passes over the crate of `widgetSource`, the second cancelled, under a configuration
that renames the accessor. -/
theorem validated_session_fails_on_no_name_widget :
    let c : Config := { singleton := { accessor := some "shared" } }
    ∃ modules, modulesOfSource "src/lib.rs" widgetSource "app" = .ok modules ∧
      let builds := [(modules, "", false), (modules, "", true)]
      Config.parse "graft.toml" "[singleton]\naccessor = \"shared\"\n" = .ok c ∧
      (∀ b ∈ builds, AsciiSourced b.1) ∧
      (∀ out ∈ (Generator.ofOptions c.options).session
          (builds.map fun b => ((CrateIndex.build b.1 c.options.markers b.2.1).model, b.2.2)),
        (∃ o, out = .ok o) ∨ out = .error (.cancelled 0)) ∧
      ∀ exposed, Text.isAsciiText exposed = true → isUsable exposed = true →
        Ident.Writable (getterName exposed) ∧ Ident.Writable (setterName exposed) ∧
          ∃ ts, eventCode exposed = .ok ts := by
  intro c
  obtain ⟨modules, hparse⟩ := modulesOfSource_widgetSource_ok
  have hc : Config.parse "graft.toml" "[singleton]\naccessor = \"shared\"\n" = .ok c := by
    decide +kernel
  have hascii : ∀ b ∈ [(modules, "", false), (modules, "", true)], AsciiSourced b.1 := by
    intro b hb
    simp only [List.mem_cons, List.not_mem_nil, or_false] at hb
    rcases hb with rfl | rfl <;> exact .ofSource identsAscii_widgetSource hparse
  exact ⟨modules, hparse, hc, hascii, validated_session_fails_on_no_name hc _ hascii⟩

end Augment
