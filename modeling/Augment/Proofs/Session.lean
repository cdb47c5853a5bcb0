import Augment.Proofs.PatternCache
import Augment.Model.Table

/-!
# A long-lived generator answers like a fresh one

A host keeps one generator for a whole session and hands it model after model, some passes
cancelled. The generator's caches never show in what a pass returns, provided the host keeps the
revision promise: a node that comes back with the same identity and revision reads the same
records (`AgreeOnRevisions`).

* `Generator.generate_fst`: a pass keeps the options, and each pattern keeps its cache or takes the
  one its own pass leaves, whatever happens to the other pattern.
* `Generator.generate_agrees_with_fresh`: a pass of a generator whose caches are faithful on the
  model returns, when it returns an output, the sources, diagnostics and candidate count of an
  uncancelled pass of a fresh generator.
* `Generator.generate_faithful`: a pass over one model keeps the generator faithful on every model
  that agrees with it on revisions.
* `Generator.session_agrees_with_fresh`: along a whole session over models that pairwise agree on
  revisions, every pass that returns an output returns that of a fresh generator.

The invariant is `Generator.Faithful`, one `PatternCache.Faithful` per pattern. It holds of a
fresh generator, and a pass preserves it on later models because the cache the pass leaves was
read off the pass's own model (`PatternCache.ReadFrom`), while a pattern whose pass failed keeps
a cache that was already faithful there.
-/

namespace Augment

/-- Two models agree on revisions when a node of the first and a node of the second with the same
identity and revision read the same records, under both patterns. -/
def AgreeOnRevisions (markers : MarkerSet) (m m' : SymbolModel) : Prop :=
  ∀ n ∈ m.nodes, ∀ n' ∈ m'.nodes, n.id = n'.id → n.revision = n'.revision →
    m.typeRecord? markers n.id = m'.typeRecord? markers n'.id ∧
      m.fieldRecord? markers n.id = m'.fieldRecord? markers n'.id

/-- Every model agrees with itself on revisions. -/
theorem agreeOnRevisions_refl (markers : MarkerSet) (m : SymbolModel) :
    AgreeOnRevisions markers m m := by
  intro n _ n' _ hid _
  rw [hid]
  exact ⟨rfl, rfl⟩

namespace Generator

open PatternCache

variable {g : Generator} {model : SymbolModel} {b : Bool} {o : PassOutput}

/-- The outputs of passes over the given models, in order, on one generator; a pass paired with
`true` runs cancelled. -/
def session (g : Generator) : List (SymbolModel × Bool) → List (Except GenerationError PassOutput)
  | [] => []
  | (model, cancelled) :: rest =>
    (g.generate model cancelled).2 :: (g.generate model cancelled).1.session rest

/-! ### One pass -/

/-- What a pass does to a generator: it keeps the options, and each pattern keeps its cache or
takes the one its own pass over the model leaves. -/
theorem generate_fst (g : Generator) (model : SymbolModel) (b : Bool) :
    (g.generate model b).1.options = g.options ∧
    ((g.generate model b).1.singleton = g.singleton ∨
      (g.generate model b).1.singleton = (g.singleton.pass (singletonRun g.options model) model).2.2) ∧
    ((g.generate model b).1.notify = g.notify ∨
      (g.generate model b).1.notify = (g.notify.pass (notifyRun g.options model) model).2.2) := by
  unfold generate
  split
  · exact ⟨rfl, .inl rfl, .inl rfl⟩
  · rename_i singles singleStats singleCache hs
    obtain ⟨-, -, rfl⟩ := run_eq_ok hs
    dsimp only
    split
    · exact ⟨rfl, .inr rfl, .inl rfl⟩
    · rename_i notes noteStats noteCache hn
      obtain ⟨-, -, rfl⟩ := run_eq_ok hn
      exact ⟨rfl, .inr rfl, .inr rfl⟩

/-- A pass that returns an output ran both patterns to the end. -/
theorem runs_of_generate_eq_ok (h : (g.generate model b).2 = .ok o) :
    g.singleton.run (singletonRun g.options model) model b =
        .ok (g.singleton.pass (singletonRun g.options model) model) ∧
      g.notify.run (notifyRun g.options model) model b =
        .ok (g.notify.pass (notifyRun g.options model) model) := by
  unfold generate at h
  split at h
  · cases h
  · rename_i hs
    dsimp only at h
    split at h
    · cases h
    · rename_i hn
      rw [(run_eq_ok_iff.1 hs).2] at hs
      rw [(run_eq_ok_iff.1 hn).2] at hn
      exact ⟨hs, hn⟩

/-- The singleton rule's check answers the same diagnostics uncancelled when it answers any. -/
theorem validate_eq_ok {markers : MarkerSet} {d : List Diagnostic}
    (h : validate markers model b = .ok d) : validate markers model false = .ok d := by
  unfold validate at h ⊢
  dsimp only at h ⊢
  split at h
  · cases h
  · simpa using h

/-- Neither pattern's cache hands out anything stale on the model. -/
structure Faithful (g : Generator) (model : SymbolModel) : Prop where
  singleton : g.singleton.Faithful (singletonRun g.options model) model
  notify : g.notify.Faithful (notifyRun g.options model) model

theorem faithful_ofOptions (opts : Options) (model : SymbolModel) :
    (ofOptions opts).Faithful model :=
  ⟨faithful_empty _ _, faithful_empty _ _⟩

/-- **A faithful generator answers like a fresh one**: a pass that returns an output returns the
sources, diagnostics and candidate count of an uncancelled pass of a fresh generator. -/
theorem generate_agrees_with_fresh (hg : g.Faithful model) (h : (g.generate model b).2 = .ok o) :
    ∃ fresh, ((ofOptions g.options).generate model false).2 = .ok fresh ∧
      fresh.sources = o.sources ∧ fresh.diagnostics = o.diagnostics ∧
      fresh.stats.candidates = o.stats.candidates := by
  obtain ⟨hs, hn⟩ := runs_of_generate_eq_ok h
  unfold generate at h ⊢
  simp only [hs, hn, ofOptions, run_false] at h ⊢
  rw [pass_fragments hg.singleton, pass_fragments hg.notify] at h
  rw [pass_fragments (faithful_empty _ _), pass_fragments (faithful_empty _ _)]
  cases hv : validate g.options.markers model b with
  | error e => rw [hv] at h; cases h
  | ok d =>
    rw [hv] at h
    rw [validate_eq_ok hv]
    cases ha : assembleFiles
        ((singletonRun g.options model).fragments model ++ (notifyRun g.options model).fragments model) with
    | error e => rw [ha] at h; cases h
    | ok files =>
      rw [ha] at h
      cases h
      exact ⟨_, rfl, rfl, rfl, rfl⟩

/-- **The step**: a pass over `model` by a generator faithful on `model` and on `model'` leaves it
faithful on `model'`, when the two models agree on revisions. A pattern whose pass ran keeps what
it read off `model`; a pattern whose pass failed keeps what it had. -/
theorem generate_faithful {model' : SymbolModel} (hg : g.Faithful model) (hg' : g.Faithful model')
    (hagree : AgreeOnRevisions g.options.markers model model') :
    (g.generate model b).1.Faithful model' := by
  obtain ⟨hopts, hsingleton, hnotify⟩ := generate_fst g model b
  constructor
  · rw [hopts]
    rcases hsingleton with hkeep | hpass
    · rw [hkeep]
      exact hg'.singleton
    · rw [hpass]
      exact faithful_of_readFrom (pass_readFrom hg.singleton)
        (fun n hn n' hn' hid hrev => (hagree n hn n' hn' hid hrev).1) rfl
  · rw [hopts]
    rcases hnotify with hkeep | hpass
    · rw [hkeep]
      exact hg'.notify
    · rw [hpass]
      exact faithful_of_readFrom (pass_readFrom hg.notify)
        (fun n hn n' hn' hid hrev => (hagree n hn n' hn' hid hrev).2) rfl

/-! ### A session -/

/-- **The run**: a generator faithful on every model of a session, over models that pairwise agree
on revisions, answers every pass that returns an output as a fresh generator does. The induction
is on the passes; `generate_faithful` carries faithfulness on the later models past each pass. -/
theorem session_agrees (g : Generator) (passes : List (SymbolModel × Bool))
    (hg : ∀ pass ∈ passes, g.Faithful pass.1)
    (hrev : (passes.map Prod.fst).Pairwise (AgreeOnRevisions g.options.markers)) {j : Nat}
    {cancelled : Bool} (hpass : passes[j]? = some (model, cancelled))
    (hout : (g.session passes)[j]? = some (.ok o)) :
    ∃ fresh, ((ofOptions g.options).generate model false).2 = .ok fresh ∧
      fresh.sources = o.sources ∧ fresh.diagnostics = o.diagnostics ∧
      fresh.stats.candidates = o.stats.candidates := by
  induction passes generalizing g j with
  | nil => simp at hpass
  | cons pass rest ih =>
    obtain ⟨model₀, b₀⟩ := pass
    rw [List.map_cons, List.pairwise_cons] at hrev
    cases j with
    | zero =>
      simp only [List.getElem?_cons_zero, Option.some.injEq, Prod.mk.injEq] at hpass
      obtain ⟨rfl, rfl⟩ := hpass
      simp only [session, List.getElem?_cons_zero, Option.some.injEq] at hout
      exact generate_agrees_with_fresh (hg _ List.mem_cons_self) hout
    | succ j =>
      simp only [List.getElem?_cons_succ] at hpass
      simp only [session, List.getElem?_cons_succ] at hout
      have hopts := (generate_fst g model₀ b₀).1
      -- the generator after the first pass is faithful on every later model
      have hg₁ : ∀ pass ∈ rest, (g.generate model₀ b₀).1.Faithful pass.1 := fun pass hp =>
        generate_faithful (hg _ List.mem_cons_self) (hg pass (List.mem_cons_of_mem _ hp))
          (hrev.1 _ (List.mem_map_of_mem hp))
      have := ih _ hg₁ (by rw [hopts]; exact hrev.2) hpass hout
      rwa [hopts] at this

/-- **A long-lived generator answers like a fresh one.** Over any session of models that pairwise
agree on revisions, with any of its passes cancelled, every pass that returns an output returns
the sources, diagnostics and candidate count of an uncancelled pass of a fresh generator over the
same model. -/
theorem session_agrees_with_fresh (opts : Options) (passes : List (SymbolModel × Bool))
    (hrev : (passes.map Prod.fst).Pairwise (AgreeOnRevisions opts.markers)) (j : Nat)
    (model : SymbolModel) (cancelled : Bool) (hpass : passes[j]? = some (model, cancelled))
    (o : PassOutput) (hout : ((ofOptions opts).session passes)[j]? = some (.ok o)) :
    ∃ fresh, ((ofOptions opts).generate model false).2 = .ok fresh ∧
      fresh.sources = o.sources ∧ fresh.diagnostics = o.diagnostics ∧
      fresh.stats.candidates = o.stats.candidates :=
  session_agrees (ofOptions opts) passes (fun _ _ => faithful_ofOptions opts _) hrev hpass hout

/-- A model with one type, marked as a singleton. -/
def singletonWidget : SymbolModel :=
  SymbolModel.ofTables
    [({ id := ⟨"node:type:app::Widget"⟩, kind := .type, revision := ⟨"1"⟩ },
      some ⟨"symbol:type:app::Widget"⟩)]
    [(⟨"symbol:type:app::Widget"⟩,
      { name := some "Widget", ns := some "app",
        markers := [{ path := (MarkerSet.ofCrate defaultMarkerCrate).singleton }] })]

/-- The singleton model with a second singleton type `Gadget` beside `Widget`, whose node has the
identity and revision it has in `singletonWidget`. -/
def widgetAndGadget : SymbolModel :=
  SymbolModel.ofTables
    [({ id := ⟨"node:type:app::Widget"⟩, kind := .type, revision := ⟨"1"⟩ },
      some ⟨"symbol:type:app::Widget"⟩),
     ({ id := ⟨"node:type:app::Gadget"⟩, kind := .type, revision := ⟨"1"⟩ },
      some ⟨"symbol:type:app::Gadget"⟩)]
    [(⟨"symbol:type:app::Widget"⟩,
      { name := some "Widget", ns := some "app",
        markers := [{ path := (MarkerSet.ofCrate defaultMarkerCrate).singleton }] }),
     (⟨"symbol:type:app::Gadget"⟩,
      { name := some "Gadget", ns := some "app",
        markers := [{ path := (MarkerSet.ofCrate defaultMarkerCrate).singleton }] })]

/-- A session over two different models, the `Widget` model and then the model that adds
`Gadget`, the second pass cancelled: the third pass takes `Widget`'s record from the cache of the
first and answers as a fresh generator over its own model. -/
theorem session_agrees_with_fresh_widget :
    let passes := [(singletonWidget, false), (widgetAndGadget, true), (widgetAndGadget, false)]
    (passes.map Prod.fst).Pairwise (AgreeOnRevisions ({} : Options).markers) ∧
      passes[2]? = some (widgetAndGadget, false) ∧
      ∃ o, ((ofOptions {}).session passes)[2]? = some (.ok o) ∧ o.stats.reused = 1 ∧
        ∃ fresh, ((ofOptions {}).generate widgetAndGadget false).2 = .ok fresh ∧
          fresh.sources = o.sources ∧ fresh.diagnostics = o.diagnostics ∧
          fresh.stats.candidates = o.stats.candidates := by
  intro passes
  -- the shared node reads the same records in both models; the other nodes differ in identity
  have hshared : AgreeOnRevisions ({} : Options).markers singletonWidget widgetAndGadget := by
    intro n hn n' hn' hid _
    simp only [singletonWidget, widgetAndGadget, SymbolModel.ofTables, List.map_cons,
      List.map_nil, List.mem_cons, List.not_mem_nil, or_false] at hn hn'
    subst hn
    rcases hn' with rfl | rfl
    · exact ⟨by decide +kernel, by decide +kernel⟩
    · exact absurd hid (by decide)
  have hrev : (passes.map Prod.fst).Pairwise (AgreeOnRevisions ({} : Options).markers) := by
    simp [passes, hshared, agreeOnRevisions_refl]
  obtain ⟨o, ho, hreused⟩ :
      ∃ o, ((ofOptions {}).session passes)[2]? = some (.ok o) ∧ o.stats.reused = 1 := by
    have hval : ((ofOptions {}).session passes)[2]?.bind
        (fun out => out.toOption.map (·.stats.reused)) = some 1 := by
      decide +kernel
    match h : ((ofOptions {}).session passes)[2]? with
    | some (.ok o) =>
      rw [h] at hval
      exact ⟨o, rfl, by simpa [Except.toOption] using hval⟩
    | some (.error _) | none => simp [h, Except.toOption] at hval
  exact ⟨hrev, rfl, o, ho, hreused,
    session_agrees_with_fresh {} passes hrev 2 widgetAndGadget false rfl o ho⟩

end Generator

end Augment
