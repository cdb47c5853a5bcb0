import Augment.Generator
import Augment.Proofs.Lookup
import Mathlib.Data.List.Basic

/-!
# What a pattern's cache hands out

A pattern remembers, from its last finished pass, the record read off each candidate node
together with the node's revision, and the fragment built for each owner together with the
owner's records. The next pass hands out a remembered record when a node comes back with the same
revision, and a remembered fragment when an owner comes back with equal records.

* `PatternCache.Faithful c p model`: whatever `c` hands out on `model` is what the pattern computes
  there afresh.
* `PatternCache.pass_fragments`: a pass over a faithful cache produces the fragments of a pass that
  remembers nothing, `PatternRun.fragments`.
* `PatternCache.ReadFrom c p model`: every entry of `c` was read off `model`, or built from records
  read off it; `pass_readFrom` shows that a pass over a faithful cache leaves such a cache.
* `PatternCache.faithful_of_readFrom`: a cache read off one model is faithful on every model that
  reads the same records at the same identities and revisions.
* `PatternCache.run_eq_ok_iff`: a cancelled pass fails exactly when the pattern has a candidate;
  a pass that does not fail is the uncancelled one.
-/

namespace Augment

namespace OwnerGroup

variable {α : Type}

/-- An owner group is determined by its owner and its records. -/
theorem ext_members {g g' : OwnerGroup α} (howner : g.owner = g'.owner)
    (hmembers : g.members = g'.members) : g = g' := by
  obtain ⟨o, a, as⟩ := g
  obtain ⟨o', a', as'⟩ := g'
  simp only [members, List.cons.injEq] at howner hmembers
  obtain ⟨rfl, rfl⟩ := hmembers
  rw [howner]

end OwnerGroup

namespace PatternRun

variable {α : Type}

/-- The records a pattern reads afresh off a model's candidates, in node order. -/
def records (p : PatternRun α) (model : SymbolModel) : List α :=
  (model.nodes.filter p.isCandidate).filterMap fun n => p.extract n.id

/-- The fragments a pattern produces for a model from records read afresh: one for each owner
group of the candidates' records, in group order. -/
def fragments (p : PatternRun α) (model : SymbolModel) : List Fragment :=
  (groupByOwner p.ownerOf (p.records model)).filterMap p.synthesize

end PatternRun

namespace PatternCache

variable {α : Type} {c : PatternCache α} {p : PatternRun α} {model : SymbolModel}

/-! ### Faithful caches -/

/-- Whatever the cache hands out on `model` is what the pattern computes afresh: a record
remembered for a node of the model at the node's revision is the node's record, and a fragment
remembered for an owner's records is the fragment of those records. -/
structure Faithful (c : PatternCache α) (p : PatternRun α) (model : SymbolModel) : Prop where
  record : ∀ n ∈ model.nodes, ∀ e, c.extracted.lookup n.id = some e → e.revision = n.revision →
    e.record = p.extract n.id
  fragment : ∀ (g : OwnerGroup α) r, c.rendered.lookup g.owner = some r → r.records = g.members →
    r.fragment = p.synthesize g

/-- A cache that remembers nothing hands out nothing. -/
theorem faithful_empty (p : PatternRun α) (model : SymbolModel) :
    ({} : PatternCache α).Faithful p model where
  record _ _ _ h := by simp at h
  fragment _ _ h := by simp at h

theorem recordOf_fst (hc : c.Faithful p model) {n : Node} (hn : n ∈ model.nodes) :
    (c.recordOf p n).1 = p.extract n.id := by
  unfold recordOf
  split
  · rename_i e he
    split
    · rename_i hrev
      exact hc.record n hn e he (by simpa using hrev)
    · rfl
  · rfl

variable [DecidableEq α]

theorem fragmentOf_fst (hc : c.Faithful p model) (g : OwnerGroup α) :
    (c.fragmentOf p g).1 = p.synthesize g := by
  unfold fragmentOf
  split
  · rename_i r hr
    split
    · rename_i hrecords
      exact hc.fragment g r hr (by simpa using hrecords)
    · rfl
  · rfl

omit [DecidableEq α] in
/-- The records a pass reads are the records of its candidates, hit or miss. -/
theorem pass_records (hc : c.Faithful p model) :
    ((model.nodes.filter p.isCandidate).map fun n => (n, c.recordOf p n)).filterMap (·.2.1) =
      (model.nodes.filter p.isCandidate).filterMap fun n => p.extract n.id := by
  rw [List.filterMap_map]
  exact List.filterMap_congr fun n hn => recordOf_fst hc (List.mem_of_mem_filter hn)

/-- **A faithful cache changes no fragment**: the pass produces the fragments of a pass that
remembers nothing. -/
theorem pass_fragments (hc : c.Faithful p model) : (c.pass p model).1 = p.fragments model := by
  simp only [pass, PatternRun.fragments, PatternRun.records, pass_records hc, List.filterMap_map]
  exact List.filterMap_congr fun g _ => fragmentOf_fst hc g

/-- The candidate count of a pass does not depend on what the cache remembers. -/
theorem pass_candidates (c : PatternCache α) (p : PatternRun α) (model : SymbolModel) :
    (c.pass p model).2.1.candidates = (model.nodes.filter p.isCandidate).length :=
  rfl

/-! ### Caches read off a model -/

/-- Every entry of the cache was read off `model`: a record entry holds a node of the model with
its revision and its record, and a fragment entry holds the records and fragment of an owner
group. -/
structure ReadFrom (c : PatternCache α) (p : PatternRun α) (model : SymbolModel) : Prop where
  record : ∀ e ∈ c.extracted, ∃ n ∈ model.nodes,
    e = (n.id, { revision := n.revision, record := p.extract n.id })
  fragment : ∀ e ∈ c.rendered, ∃ g : OwnerGroup α,
    e = (g.owner, { records := g.members, fragment := p.synthesize g })

/-- A pass over a faithful cache leaves a cache read off the model. -/
theorem pass_readFrom (hc : c.Faithful p model) : (c.pass p model).2.2.ReadFrom p model where
  record e he := by
    simp only [pass, List.mem_reverse, List.map_map, List.mem_map, List.mem_filter,
      Function.comp_apply] at he
    obtain ⟨n, ⟨hn, -⟩, rfl⟩ := he
    exact ⟨n, hn, by rw [recordOf_fst hc hn]⟩
  fragment e he := by
    simp only [pass, List.map_map, List.mem_map, Function.comp_apply] at he
    obtain ⟨g, -, rfl⟩ := he
    exact ⟨g, by rw [fragmentOf_fst hc g]⟩

omit [DecidableEq α] in
/-- **A cache read off one model is faithful on another** that reads the same record at every
node with the same identity and revision, and builds fragments alike. -/
theorem faithful_of_readFrom {model' : SymbolModel} {p' : PatternRun α} (hc : c.ReadFrom p model)
    (hrecords : ∀ n ∈ model.nodes, ∀ n' ∈ model'.nodes, n.id = n'.id → n.revision = n'.revision →
      p.extract n.id = p'.extract n'.id)
    (hsynthesize : p'.synthesize = p.synthesize) : c.Faithful p' model' where
  record n' hn' e he hrev := by
    obtain ⟨n, hn, hentry⟩ := hc.record _ (List.mem_of_lookup_eq_some he)
    simp only [Prod.mk.injEq] at hentry
    obtain ⟨hid, rfl⟩ := hentry
    exact hrecords n hn n' hn' hid.symm hrev
  fragment g r hr hmembers := by
    obtain ⟨g₀, hentry⟩ := hc.fragment _ (List.mem_of_lookup_eq_some hr)
    simp only [Prod.mk.injEq] at hentry
    obtain ⟨howner, rfl⟩ := hentry
    rw [hsynthesize, OwnerGroup.ext_members howner hmembers.symm]

/-! ### Cancelled passes -/

/-- A pass runs to the end unless it is cancelled while the pattern has a candidate. -/
theorem run_eq_ok_iff {b : Bool} {r : List Fragment × PassStats × PatternCache α} :
    c.run p model b = .ok r ↔ (b = false ∨ model.nodes.any p.isCandidate = false) ∧
      r = c.pass p model := by
  unfold run
  cases b <;> cases model.nodes.any p.isCandidate <;> simp [eq_comm]

theorem run_eq_ok {b : Bool} {fs : List Fragment} {st : PassStats} {c' : PatternCache α}
    (h : c.run p model b = .ok (fs, st, c')) :
    fs = (c.pass p model).1 ∧ st = (c.pass p model).2.1 ∧ c' = (c.pass p model).2.2 := by
  obtain ⟨-, hr⟩ := run_eq_ok_iff.1 h
  rw [← hr]
  exact ⟨rfl, rfl, rfl⟩

theorem run_false (c : PatternCache α) (p : PatternRun α) (model : SymbolModel) :
    c.run p model false = .ok (c.pass p model) := by
  simp [run]

/-- A cancelled pass of a pattern with a candidate fails before it reads one. -/
theorem run_true_of_any (h : model.nodes.any p.isCandidate = true) :
    c.run p model true = .error (.cancelled 0) := by
  simp [run, h]

/-- A pass over a model without candidates produces nothing and forgets everything. -/
theorem pass_of_not_any (h : model.nodes.any p.isCandidate = false) :
    c.pass p model = ([], {}, {}) := by
  have hnil : model.nodes.filter p.isCandidate = [] := by
    simpa [List.filter_eq_nil_iff] using h
  simp [pass, hnil, groupByOwner]

/-- A pass over a model without candidates cannot notice a cancellation: it runs to the end,
produces nothing and forgets everything. -/
theorem run_of_not_any {b : Bool} (h : model.nodes.any p.isCandidate = false) :
    c.run p model b = .ok ([], {}, {}) := by
  rw [run_eq_ok_iff]
  exact ⟨.inr h, (pass_of_not_any h).symm⟩

end PatternCache

end Augment
