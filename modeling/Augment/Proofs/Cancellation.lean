import Augment.Proofs.Session

/-!
# Cancelled passes

A host cancels a pass by handing the generator a cancellation that is already flipped. Each pattern
checks it before it reads a candidate, and so does the singleton rule's check before it looks at a
type; the patterns run one after the other, and each keeps the caches of its own pass as soon as
that pass is over.

* `Generator.generate_cancelled`: what a cancelled pass returns and leaves behind, for every
  generator and model. With a type node, the singleton pattern stops the pass and nothing changes.
  Without one but with a marked field, the singleton pattern finishes its empty pass, keeps its
  emptied caches, and only then does the change-notification pattern stop the pass. Without
  either, the pass returns the empty output and both patterns forget everything.
* `Generator.generate_cancelled_outcome`: a cancelled pass fails exactly when the model has a
  type node or a marked field, returns the empty output otherwise, and when it fails it leaves
  the generator as it was exactly when the model has a type node or the singleton pattern
  remembered nothing.
-/

namespace Augment.Generator

open PatternCache

/-- Replacing the singleton pattern's cache leaves the generator as it was exactly when the cache
was already that one. -/
theorem with_singleton_eq_self_iff {g : Generator} {c : PatternCache TypeRecord} :
    ({ g with singleton := c } : Generator) = g ↔ g.singleton = c := by
  obtain ⟨options, singleton, notify⟩ := g
  simp [eq_comm]

/-- The singleton rule's check of a model without type nodes finds nothing, cancelled or not. -/
theorem validate_of_not_any {markers : MarkerSet} {model : SymbolModel} {b : Bool}
    (h : model.nodes.any Node.isType = false) : validate markers model b = .ok [] := by
  have hnil : model.nodes.filter Node.isType = [] := by
    simpa [List.filter_eq_nil_iff] using h
  simp [validate, hnil]

/-- No fragments make no files. -/
theorem assembleFiles_nil : assembleFiles [] = .ok [] := by
  simp [assembleFiles, fileGroups]
  rfl

/-- **What a cancelled pass does.** -/
theorem generate_cancelled (g : Generator) (model : SymbolModel) :
    g.generate model true =
      if model.nodes.any Node.isType then (g, .error (.cancelled 0))
      else if model.nodes.any Node.isMarkedField then
        ({ g with singleton := {} }, .error (.cancelled 0))
      else
        ({ g with singleton := {}, notify := {} },
          .ok { sources := [], diagnostics := [], stats := {} }) := by
  by_cases htype : model.nodes.any Node.isType
  · -- the singleton pattern has a candidate and stops the pass before anything changes
    have hs : g.singleton.run (singletonRun g.options model) model true = .error (.cancelled 0) :=
      run_true_of_any htype
    simp [generate, hs, htype]
  · have hs : g.singleton.run (singletonRun g.options model) model true = .ok ([], {}, {}) :=
      run_of_not_any (by simpa [singletonRun] using htype)
    by_cases hfield : model.nodes.any Node.isMarkedField
    · -- the singleton pattern has already kept its emptied caches when notification stops
      have hn : g.notify.run (notifyRun g.options model) model true = .error (.cancelled 0) :=
        run_true_of_any hfield
      simp [generate, hs, hn, htype, hfield]
    · have hn : g.notify.run (notifyRun g.options model) model true = .ok ([], {}, {}) :=
        run_of_not_any (by simpa [notifyRun] using hfield)
      have hv : validate g.options.markers model true = .ok [] :=
        validate_of_not_any (by simpa using htype)
      simp [generate, hs, hn, hv, htype, hfield, assembleFiles_nil, PassStats.add]
      rfl

/-- **A cancelled pass is atomic only when it stops at a type.** It fails exactly when the model has
a type node or a marked field, and otherwise returns the empty output. When it fails, it leaves the
generator as it was exactly when the model has a type node or the singleton pattern remembered
nothing: a model with marked fields and no type node lets the singleton pattern finish first and
keep its emptied caches. -/
theorem generate_cancelled_outcome (g : Generator) (model : SymbolModel) :
    ((g.generate model true).2 = .error (.cancelled 0) ↔
        model.nodes.any Node.isType ∨ model.nodes.any Node.isMarkedField) ∧
      ((g.generate model true).2 ≠ .error (.cancelled 0) →
        (g.generate model true).2 = .ok { sources := [], diagnostics := [], stats := {} }) ∧
      ((g.generate model true).2 = .error (.cancelled 0) →
        ((g.generate model true).1 = g ↔ model.nodes.any Node.isType ∨ g.singleton = {})) := by
  rw [generate_cancelled]
  by_cases htype : model.nodes.any Node.isType
  · simp [htype]
  · by_cases hfield : model.nodes.any Node.isMarkedField
    · simp [htype, hfield, with_singleton_eq_self_iff]
    · simp [htype, hfield]

end Augment.Generator
