import Augment.Proofs.Group
import Augment.Proofs.Session
import Mathlib.Data.List.Nodup

/-!
# The statistics of a pass count its cache use exactly

A pass counts the candidates it looks at, the records it reads afresh, the records it takes from
the cache, and the fragments it builds afresh. The cache it reads was left by the pattern's last
finished pass (a fresh cache is the one a pass over a model without candidates leaves,
`PatternCache.pass_of_not_any`), and it holds exactly what that pass read and built. So the
counts say, for every history of edits between the two passes:

* `PatternCache.reused_pass_of_pass`: a record is taken from the cache exactly when the last pass
  had a candidate of the same identity and revision, provided that pass's model gave its nodes
  distinct identities.
* `PatternCache.extracted_pass`: the records read afresh are the other candidates.
* `PatternCache.rendered_pass_of_pass`: a fragment is built afresh exactly when the last pass had
  no group with the same owner and records.
* `PatternCache.pass_pass_stats`: a second pass over the same model reads and builds nothing.
* `Generator.generate_of_generate_eq_ok`: the statistics of a generator's pass that returns an
  output are the sums of its two patterns' statistics, and a pattern whose pass fails keeps its
  cache (`Generator.generate_of_singleton_error`, `Generator.generate_notify_of_error`).
* `passStats_count_cache_use` gathers these.

The two lookups behind the counts are `PatternCache.lookup_pass_extracted` and
`PatternCache.lookup_pass_rendered`: a key of the cache a pass leaves finds the entry the pass
made for it, since the candidates' identities and the groups' owners are distinct.
-/

namespace Augment

namespace PatternCache

variable {α : Type} [DecidableEq α]

/-! ### What a pass counts -/

/-- The owner groups a pass over the cache builds fragments for. -/
def groups (c : PatternCache α) (p : PatternRun α) (model : SymbolModel) : List (OwnerGroup α) :=
  groupByOwner p.ownerOf
    (((model.nodes.filter p.isCandidate).map fun n => (n, c.recordOf p n)).filterMap (·.2.1))

theorem pass_reused (c : PatternCache α) (p : PatternRun α) (model : SymbolModel) :
    (c.pass p model).2.1.reused =
      ((model.nodes.filter p.isCandidate).filter fun n => (c.recordOf p n).2).length := by
  simp [pass, List.filter_map, Function.comp_def]

/-- The records a pass reads afresh are those of the candidates it takes no record from the cache
for, whatever the cache. -/
theorem extracted_pass (c : PatternCache α) (p : PatternRun α) (model : SymbolModel) :
    (c.pass p model).2.1.extracted = (c.pass p model).2.1.candidates - (c.pass p model).2.1.reused := by
  have hsplit : (model.nodes.filter p.isCandidate).length = _ :=
    List.length_eq_length_filter_add fun n => (c.recordOf p n).2
  have hextracted : (c.pass p model).2.1.extracted =
      ((model.nodes.filter p.isCandidate).filter fun n => !(c.recordOf p n).2).length := by
    simp [pass, List.filter_map, Function.comp_def]
  rw [hextracted, pass_reused, pass_candidates]
  omega

theorem pass_rendered (c : PatternCache α) (p : PatternRun α) (model : SymbolModel) :
    (c.pass p model).2.1.rendered = ((c.groups p model).filter fun g => (c.fragmentOf p g).2).length := by
  simp [pass, groups, List.filter_map, Function.comp_def]

theorem pass_cache_extracted (c : PatternCache α) (p : PatternRun α) (model : SymbolModel) :
    (c.pass p model).2.2.extracted = ((model.nodes.filter p.isCandidate).map fun n =>
      (n.id, ({ revision := n.revision, record := (c.recordOf p n).1 } : Extraction α))).reverse := by
  simp [pass, Function.comp_def]

theorem pass_cache_rendered (c : PatternCache α) (p : PatternRun α) (model : SymbolModel) :
    (c.pass p model).2.2.rendered = (c.groups p model).map fun g =>
      (g.owner, ({ records := g.members, fragment := (c.fragmentOf p g).1 } : Rendering α)) := by
  simp [pass, groups, Function.comp_def]

/-! ### What the cache of a pass holds -/

section LastPass

variable {c₀ : PatternCache α} {p₀ : PatternRun α} {model₀ : SymbolModel}

/-- The cache a pass leaves holds, for every candidate of its model, the candidate's revision and
the record the pass read. -/
theorem lookup_pass_extracted (hids : (model₀.nodes.map (·.id)).Nodup) {n₀ : Node}
    (hn₀ : n₀ ∈ model₀.nodes.filter p₀.isCandidate) :
    (c₀.pass p₀ model₀).2.2.extracted.lookup n₀.id =
      some { revision := n₀.revision, record := (c₀.recordOf p₀ n₀).1 } := by
  rw [pass_cache_extracted]
  refine List.lookup_eq_of_mem ?_ (List.mem_reverse.2 (List.mem_map_of_mem hn₀))
  rw [List.map_reverse, List.nodup_reverse, List.map_map]
  exact hids.sublist (List.filter_sublist.map _)

/-- The cache a pass leaves holds, for every owner group of its model, the group's records and the
fragment the pass built for it. -/
theorem lookup_pass_rendered {g₀ : OwnerGroup α} (hg₀ : g₀ ∈ c₀.groups p₀ model₀) :
    (c₀.pass p₀ model₀).2.2.rendered.lookup g₀.owner =
      some { records := g₀.members, fragment := (c₀.fragmentOf p₀ g₀).1 } := by
  rw [pass_cache_rendered]
  refine List.lookup_eq_of_mem ?_ (List.mem_map_of_mem hg₀)
  rw [List.map_map]
  exact (OwnerGroup.grouped_groupByOwner _ _).nodup

/-- A pass over a cache left by an earlier pass takes a candidate's record from the cache exactly
when a candidate of the earlier pass had the same identity and revision. -/
theorem recordOf_snd_of_pass (hids : (model₀.nodes.map (·.id)).Nodup) (p : PatternRun α)
    (n : Node) :
    ((c₀.pass p₀ model₀).2.2.recordOf p n).2 =
      (model₀.nodes.filter p₀.isCandidate).any fun n₀ => n₀.id == n.id && n₀.revision == n.revision := by
  rw [List.any_eq_lookup_of_entries (·.id)
    (fun n₀ => ({ revision := n₀.revision, record := (c₀.recordOf p₀ n₀).1 } : Extraction α))
    (·.revision == n.revision) (·.revision == n.revision)
    (fun _ hn₀ => lookup_pass_extracted hids hn₀)
    (fun e he => by rwa [pass_cache_extracted, List.mem_reverse, List.mem_map] at he)
    (fun _ _ => rfl)]
  unfold recordOf
  cases (c₀.pass p₀ model₀).2.2.extracted.lookup n.id with
  | none => rfl
  | some hit =>
    dsimp only
    split <;> rename_i hrev <;> simp [hrev]

/-- A pass over a cache left by an earlier pass builds an owner group's fragment afresh exactly
when no group of the earlier pass had the same owner and records. -/
theorem fragmentOf_snd_of_pass (p : PatternRun α) (g : OwnerGroup α) :
    ((c₀.pass p₀ model₀).2.2.fragmentOf p g).2 =
      !((c₀.groups p₀ model₀).any fun g₀ => g₀.owner == g.owner && g₀.members == g.members) := by
  rw [List.any_eq_lookup_of_entries (·.owner)
    (fun g₀ => ({ records := g₀.members, fragment := (c₀.fragmentOf p₀ g₀).1 } : Rendering α))
    (·.members == g.members) (·.records == g.members)
    (fun _ hg₀ => lookup_pass_rendered hg₀)
    (fun e he => by rwa [pass_cache_rendered, List.mem_map] at he)
    (fun _ _ => rfl)]
  unfold fragmentOf
  cases (c₀.pass p₀ model₀).2.2.rendered.lookup g.owner with
  | none => rfl
  | some hit =>
    dsimp only
    split <;> rename_i hrec <;> simp [hrec]

/-- **Reused records**: a pass over the cache of an earlier pass takes from it the records of
exactly those candidates whose identity and revision were a candidate's of the earlier pass. -/
theorem reused_pass_of_pass (hids : (model₀.nodes.map (·.id)).Nodup) (p : PatternRun α)
    (model : SymbolModel) :
    ((c₀.pass p₀ model₀).2.2.pass p model).2.1.reused =
      ((model.nodes.filter p.isCandidate).filter fun n =>
        (model₀.nodes.filter p₀.isCandidate).any fun n₀ =>
          n₀.id == n.id && n₀.revision == n.revision).length := by
  rw [pass_reused]
  simp only [recordOf_snd_of_pass hids]

/-- **Rebuilt fragments**: a pass over the cache of an earlier pass builds afresh the fragments of
exactly those owner groups that the earlier pass did not have, with the same owner and records. -/
theorem rendered_pass_of_pass (p : PatternRun α) (model : SymbolModel) :
    ((c₀.pass p₀ model₀).2.2.pass p model).2.1.rendered =
      (((c₀.pass p₀ model₀).2.2.groups p model).filter fun g =>
        !(c₀.groups p₀ model₀).any fun g₀ =>
          g₀.owner == g.owner && g₀.members == g.members).length := by
  rw [pass_rendered]
  simp only [fragmentOf_snd_of_pass]

end LastPass

/-! ### A second pass over the same model -/

section Again

variable {model : SymbolModel}

/-- On the model of the pass that left the cache, a candidate's record comes from the cache and is
the one that pass read. -/
theorem recordOf_pass_self (hids : (model.nodes.map (·.id)).Nodup) (c : PatternCache α)
    (p : PatternRun α) {n : Node} (hn : n ∈ model.nodes.filter p.isCandidate) :
    (c.pass p model).2.2.recordOf p n = ((c.recordOf p n).1, true) := by
  rw [recordOf, lookup_pass_extracted hids hn]
  simp

/-- On the model of the pass that left the cache, a pass reads the same records and so forms the
same owner groups. -/
theorem groups_pass_self (hids : (model.nodes.map (·.id)).Nodup) (c : PatternCache α)
    (p : PatternRun α) : (c.pass p model).2.2.groups p model = c.groups p model := by
  simp only [groups, List.filterMap_map, Function.comp_def]
  congr 1
  apply List.filterMap_congr
  intro n hn
  rw [recordOf_pass_self hids c p hn]

/-- **A second pass over an unchanged model** takes every record from the cache and builds no
fragment afresh. -/
theorem pass_pass_stats (hids : (model.nodes.map (·.id)).Nodup) (c : PatternCache α)
    (p : PatternRun α) :
    ((c.pass p model).2.2.pass p model).2.1.extracted = 0 ∧
      ((c.pass p model).2.2.pass p model).2.1.rendered = 0 ∧
      ((c.pass p model).2.2.pass p model).2.1.reused =
        ((c.pass p model).2.2.pass p model).2.1.candidates := by
  -- every candidate is matched by itself among the last pass's candidates
  have hreused : ((model.nodes.filter p.isCandidate).filter fun n =>
      (model.nodes.filter p.isCandidate).any fun n₀ =>
        n₀.id == n.id && n₀.revision == n.revision) = model.nodes.filter p.isCandidate :=
    List.filter_eq_self.2 fun n hn => List.any_eq_true.2 ⟨n, hn, by simp⟩
  -- and every group by itself among the last pass's groups
  have hrendered : ((c.groups p model).filter fun g =>
      !(c.groups p model).any fun g₀ => g₀.owner == g.owner && g₀.members == g.members) = [] := by
    rw [List.filter_eq_nil_iff]
    intro g hg
    have hself : ((c.groups p model).any fun g₀ =>
        g₀.owner == g.owner && g₀.members == g.members) = true :=
      List.any_eq_true.2 ⟨g, hg, by simp⟩
    simp [hself]
  have hreused' : ((c.pass p model).2.2.pass p model).2.1.reused = _ :=
    reused_pass_of_pass hids p model
  rw [hreused, ← pass_candidates] at hreused'
  refine ⟨?_, ?_, hreused'⟩
  · rw [extracted_pass, hreused']
    exact Nat.sub_self _
  · rw [rendered_pass_of_pass, groups_pass_self hids, hrendered]
    rfl

end Again

end PatternCache

namespace Generator

open PatternCache

variable {g : Generator} {model : SymbolModel} {b : Bool} {o : PassOutput}

/-- A pass whose singleton pattern fails changes nothing. -/
theorem generate_of_singleton_error {e : GenerationError}
    (h : g.singleton.run (singletonRun g.options model) model b = .error e) :
    g.generate model b = (g, .error e) := by
  unfold generate
  rw [h]

/-- A pass whose change-notification pattern fails keeps that pattern's cache. -/
theorem generate_notify_of_error {e : GenerationError}
    (h : g.notify.run (notifyRun g.options model) model b = .error e) :
    (g.generate model b).1.notify = g.notify := by
  unfold generate
  split
  · rfl
  · dsimp only
    rw [h]

/-- A pass that returns an output leaves each pattern the cache of its own pass, and its
statistics are the sums of the two patterns' statistics. -/
theorem generate_of_generate_eq_ok (h : (g.generate model b).2 = .ok o) :
    (g.generate model b).1 =
        { g with singleton := (g.singleton.pass (singletonRun g.options model) model).2.2,
                 notify := (g.notify.pass (notifyRun g.options model) model).2.2 } ∧
      o.stats = (g.singleton.pass (singletonRun g.options model) model).2.1.add
        (g.notify.pass (notifyRun g.options model) model).2.1 := by
  obtain ⟨hs, hn⟩ := runs_of_generate_eq_ok h
  unfold generate at h ⊢
  simp only [hs, hn, true_and] at h ⊢
  cases hv : validate g.options.markers model b with
  | error e =>
    rw [hv] at h
    cases h
  | ok d =>
    rw [hv] at h
    cases ha : assembleFiles ((g.singleton.pass (singletonRun g.options model) model).1 ++
        (g.notify.pass (notifyRun g.options model) model).1) with
    | error e =>
      rw [ha] at h
      cases h
    | ok files =>
      rw [ha] at h
      cases h
      rfl

/-- **Twice in a row**: a generator's second pass over a model its first pass returned an output
for takes every record from the caches and builds no fragment afresh. -/
theorem generate_generate_stats {b' : Bool} {o' : PassOutput}
    (hids : (model.nodes.map (·.id)).Nodup) (h : (g.generate model b).2 = .ok o)
    (h' : ((g.generate model b).1.generate model b').2 = .ok o') :
    o'.stats.extracted = 0 ∧ o'.stats.rendered = 0 ∧ o'.stats.reused = o'.stats.candidates := by
  obtain ⟨hg, -⟩ := generate_of_generate_eq_ok h
  obtain ⟨-, hstats⟩ := generate_of_generate_eq_ok h'
  rw [hstats, hg]
  obtain ⟨hs₁, hs₂, hs₃⟩ := pass_pass_stats hids g.singleton (singletonRun g.options model)
  obtain ⟨hn₁, hn₂, hn₃⟩ := pass_pass_stats hids g.notify (notifyRun g.options model)
  refine ⟨?_, ?_, ?_⟩
  · simp only [PassStats.add, hs₁, hn₁]
  · simp only [PassStats.add, hs₂, hn₂]
  · simp only [PassStats.add, hs₃, hn₃]

end Generator

open PatternCache Generator in
/-- **The statistics of a pass count its cache use exactly.** A pattern's pass over the cache its
last finished pass left, over a model that gave its nodes distinct identities, counts its
candidates; takes from the cache the records of exactly the candidates whose identity and
revision were a candidate's of that pass; reads the others afresh; and builds afresh the
fragments of exactly the owner groups that pass did not have, with the same owner and records.
A generator's pattern whose pass fails keeps its cache, the singleton pattern failing first
leaving the whole generator as it was; the statistics of a generator's pass are the sums of its
two patterns'; and a second pass over an unchanged model reads and builds nothing afresh. -/
theorem passStats_count_cache_use :
    (∀ {α : Type} [DecidableEq α] (c₀ : PatternCache α) (p₀ : PatternRun α)
        (model₀ : SymbolModel), (model₀.nodes.map (·.id)).Nodup →
      ∀ (p : PatternRun α) (model : SymbolModel) (b : Bool)
        (r : List Fragment × PassStats × PatternCache α),
        (c₀.pass p₀ model₀).2.2.run p model b = .ok r →
          r.2.1.candidates = (model.nodes.filter p.isCandidate).length ∧
          r.2.1.reused = ((model.nodes.filter p.isCandidate).filter fun n =>
            (model₀.nodes.filter p₀.isCandidate).any fun n₀ =>
              n₀.id == n.id && n₀.revision == n.revision).length ∧
          r.2.1.extracted = r.2.1.candidates - r.2.1.reused ∧
          r.2.1.rendered = (((c₀.pass p₀ model₀).2.2.groups p model).filter fun g =>
            !(c₀.groups p₀ model₀).any fun g₀ =>
              g₀.owner == g.owner && g₀.members == g.members).length) ∧
      (∀ (g : Generator) (model : SymbolModel) (b : Bool) (e : GenerationError),
        g.singleton.run (singletonRun g.options model) model b = .error e →
          g.generate model b = (g, .error e)) ∧
      (∀ (g : Generator) (model : SymbolModel) (b : Bool) (e : GenerationError),
        g.notify.run (notifyRun g.options model) model b = .error e →
          (g.generate model b).1.notify = g.notify) ∧
      (∀ (g : Generator) (model : SymbolModel) (b : Bool) (o : PassOutput),
        (g.generate model b).2 = .ok o →
          ∃ r₁ r₂, g.singleton.run (singletonRun g.options model) model b = .ok r₁ ∧
            g.notify.run (notifyRun g.options model) model b = .ok r₂ ∧
            o.stats = r₁.2.1.add r₂.2.1) ∧
      (∀ (g : Generator) (model : SymbolModel) (b b' : Bool) (o o' : PassOutput),
        (model.nodes.map (·.id)).Nodup → (g.generate model b).2 = .ok o →
          ((g.generate model b).1.generate model b').2 = .ok o' →
            o'.stats.extracted = 0 ∧ o'.stats.rendered = 0 ∧
              o'.stats.reused = o'.stats.candidates) := by
  refine ⟨?_, fun g model b e h => generate_of_singleton_error h,
    fun g model b e h => generate_notify_of_error h, ?_,
    fun g model b b' o o' hids h h' => generate_generate_stats hids h h'⟩
  · intro α _ c₀ p₀ model₀ hids p model b r hrun
    obtain ⟨-, rfl⟩ := run_eq_ok_iff.1 hrun
    exact ⟨pass_candidates _ _ _, reused_pass_of_pass hids p model, extracted_pass _ _ _,
      rendered_pass_of_pass p model⟩
  · intro g model b o h
    obtain ⟨hs, hn⟩ := runs_of_generate_eq_ok h
    exact ⟨_, _, hs, hn, (generate_of_generate_eq_ok h).2⟩

open Generator in
/-- Two passes over the one-type singleton model: the second takes its record from the cache. -/
theorem passStats_count_cache_use_widget :
    (singletonWidget.nodes.map (·.id)).Nodup ∧
      ∃ o o', ((ofOptions {}).generate singletonWidget false).2 = .ok o ∧
        (((ofOptions {}).generate singletonWidget false).1.generate singletonWidget false).2 =
          .ok o' ∧
        o'.stats.extracted = 0 ∧ o'.stats.rendered = 0 ∧ o'.stats.reused = o'.stats.candidates := by
  have hids : (singletonWidget.nodes.map (·.id)).Nodup := by
    decide +kernel
  obtain ⟨o, ho⟩ : ∃ o, ((ofOptions {}).generate singletonWidget false).2 = .ok o := by
    have hok : (((ofOptions {}).generate singletonWidget false).2.toOption).isSome = true := by
      decide +kernel
    match h : ((ofOptions {}).generate singletonWidget false).2 with
    | .ok o => exact ⟨o, rfl⟩
    | .error _ => simp [h, Except.toOption] at hok
  obtain ⟨o', ho'⟩ : ∃ o', (((ofOptions {}).generate singletonWidget false).1.generate
      singletonWidget false).2 = .ok o' := by
    have hok : ((((ofOptions {}).generate singletonWidget false).1.generate
        singletonWidget false).2.toOption).isSome = true := by
      decide +kernel
    match h : (((ofOptions {}).generate singletonWidget false).1.generate singletonWidget false).2 with
    | .ok o' => exact ⟨o', rfl⟩
    | .error _ => simp [h, Except.toOption] at hok
  exact ⟨hids, o, o', ho, ho',
    passStats_count_cache_use.2.2.2.2 (ofOptions {}) singletonWidget false false o o' hids ho ho'⟩

end Augment
