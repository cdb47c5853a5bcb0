/-!
# Looking keys up in lists of pairs

The caches of a generator, the includes of an output directory, the entries of a file tree and the
names a module imports are lists of pairs read by `List.lookup`, the first entry of a key winning.
These are the facts about such lists that the proofs share, for any key type whose `==` is
equality.

* `List.mem_of_lookup_eq_some`, `List.lookup_eq_of_mem`: a lookup finds an entry of the list, and
  every entry when the keys are distinct.
* `List.lookup_eq_none_iff_not_mem`: a lookup finds nothing exactly for a key the list lacks.
* `List.lookup_append_of_not_mem`, `List.lookup_append_singleton`, `List.lookup_filter_ne`: lookups
  after adding entries in front or behind, and after removing the entries of one key.
* `List.lookup_eq_of_perm`, `List.find?_eq_of_perm`: two orderings of a list answer alike, when
  the keys are distinct, or when at most one element has the property looked for.
* `List.any_eq_lookup_of_entries`: a table with one entry per source answers for its sources.
-/

namespace Augment

section Lookup

variable {κ β : Type} [BEq κ] [LawfulBEq κ]

/-- A key bound by a lookup is one of the list's entries. -/
theorem List.mem_of_lookup_eq_some {l : List (κ × β)} {k : κ} {b : β}
    (h : l.lookup k = some b) : (k, b) ∈ l := by
  obtain ⟨l₁, l₂, rfl, -⟩ := List.lookup_eq_some_iff.1 h
  simp

/-- In a list whose keys are distinct, a lookup finds every entry by its key. -/
theorem List.lookup_eq_of_mem {l : List (κ × β)} {k : κ} {b : β} (hnodup : (l.map (·.1)).Nodup)
    (h : (k, b) ∈ l) : l.lookup k = some b := by
  induction l with
  | nil => cases h
  | cons e l ih =>
    obtain ⟨k', b'⟩ := e
    rw [List.map_cons, List.nodup_cons] at hnodup
    rcases List.mem_cons.1 h with heq | hmem
    · cases heq
      simp
    · -- the head has another key, so the lookup passes it
      have hne : (k == k') = false := by
        rw [beq_eq_false_iff_ne]
        intro hk
        exact hnodup.1 (List.mem_map.2 ⟨_, hmem, hk⟩)
      simp only [List.lookup_cons, hne]
      exact ih hnodup.2 hmem

theorem List.lookup_eq_none_iff_not_mem {l : List (κ × β)} {k : κ} :
    l.lookup k = none ↔ k ∉ l.map (·.1) := by
  rw [List.lookup_eq_none_iff]
  constructor
  · intro h hmem
    obtain ⟨e, he, rfl⟩ := List.mem_map.1 hmem
    simpa using h e he
  · intro hfresh e he
    simpa [bne_iff_ne] using fun heq : k = e.1 => hfresh (heq ▸ List.mem_map_of_mem he)

/-- A lookup past entries of other keys. -/
theorem List.lookup_append_of_not_mem {l₁ l₂ : List (κ × β)} {k : κ}
    (hk : k ∉ l₁.map (·.1)) : (l₁ ++ l₂).lookup k = l₂.lookup k := by
  rw [List.lookup_append, List.lookup_eq_none_iff_not_mem.2 hk, Option.none_or]

/-- A lookup after an entry of a new key is added at the end. -/
theorem List.lookup_append_singleton {l : List (κ × β)} {k : κ} (hfresh : k ∉ l.map (·.1))
    (b : β) (k' : κ) :
    (l ++ [(k, b)]).lookup k' = if k' == k then some b else l.lookup k' := by
  rw [List.lookup_append]
  by_cases hk : k' = k
  · subst hk
    simp [List.lookup_eq_none_iff_not_mem.2 hfresh]
  · simp [List.lookup_cons, beq_false_of_ne hk]

/-- A lookup after removing the entries of one key. -/
theorem List.lookup_filter_ne (entries : List (κ × β)) (a b : κ) :
    (entries.filter (·.1 != b)).lookup a = if a == b then none else entries.lookup a := by
  induction entries with
  | nil => simp
  | cons e entries ih =>
    obtain ⟨k, v⟩ := e
    by_cases hak : a = k
    · subst hak
      by_cases hab : a = b
      · subst hab
        simpa using ih
      · simp [hab]
    · have hne : (a == k) = false := beq_false_of_ne hak
      by_cases hkb : k = b
      · subst hkb
        simp [List.lookup_cons, hne, ih]
      · simp [List.lookup_cons, hne, hkb, ih]

/-- Removing the entries of a key the list lacks removes nothing. -/
theorem List.filter_fst_ne_of_not_mem {l : List (κ × β)} {k : κ} (hk : k ∉ l.map (·.1)) :
    l.filter (·.1 != k) = l := by
  rw [List.filter_eq_self]
  intro e he
  simpa [bne_iff_ne] using fun heq : e.1 = k => hk (heq ▸ List.mem_map_of_mem he)

/-- Lookups in two orderings of a list with distinct keys agree. -/
theorem List.lookup_eq_of_perm {l l' : List (κ × β)} (hperm : l.Perm l')
    (hnodup : (l.map (·.1)).Nodup) (k : κ) : l.lookup k = l'.lookup k := by
  have hnodup' : (l'.map (·.1)).Nodup := (hperm.map _).nodup_iff.1 hnodup
  cases h : l.lookup k with
  | some v =>
    exact (List.lookup_eq_of_mem hnodup' (hperm.subset (List.mem_of_lookup_eq_some h))).symm
  | none =>
    cases h' : l'.lookup k with
    | none => rfl
    | some v =>
      rw [List.lookup_eq_of_mem hnodup (hperm.symm.subset (List.mem_of_lookup_eq_some h'))] at h
      cases h

/-- A table with the entry `(key x, val x)` of every `x` of `xs`, and only those, answers for `xs`:
some `x` has the key `k` and passes `p` exactly when the lookup of `k` finds an entry that passes
`q`, where `q` asks of the entry what `p` asks of its source. -/
theorem List.any_eq_lookup_of_entries {α : Type} {xs : List α} {table : List (κ × β)}
    (key : α → κ) (val : α → β) (p : α → Bool) (q : β → Bool)
    (hlookup : ∀ x ∈ xs, table.lookup (key x) = some (val x))
    (hentries : ∀ e ∈ table, ∃ x ∈ xs, (key x, val x) = e) (hpq : ∀ x ∈ xs, p x = q (val x))
    (k : κ) :
    xs.any (fun x => key x == k && p x) = ((table.lookup k).map q).getD false := by
  cases hl : table.lookup k with
  | none =>
    -- no source has the key, or its entry would be found
    rw [Option.map_none, Option.getD_none, List.any_eq_false]
    intro x hx hmatch
    simp only [Bool.and_eq_true, beq_iff_eq] at hmatch
    rw [← hmatch.1, hlookup x hx] at hl
    cases hl
  | some hit =>
    -- the sources with the key are those of the entry the lookup found
    rw [Option.map_some, Option.getD_some, Bool.eq_iff_iff, List.any_eq_true]
    constructor
    · rintro ⟨x, hx, hmatch⟩
      simp only [Bool.and_eq_true, beq_iff_eq] at hmatch
      have hfound := hlookup x hx
      rw [hmatch.1, hl, Option.some.injEq] at hfound
      rw [hfound, ← hpq x hx]
      exact hmatch.2
    · intro hq
      obtain ⟨x, hx, hentry⟩ := hentries _ (List.mem_of_lookup_eq_some hl)
      obtain ⟨hkey, hval⟩ := Prod.mk.inj hentry
      refine ⟨x, hx, ?_⟩
      rw [hkey, hpq x hx, hval, hq, beq_self_eq_true, Bool.true_and]

end Lookup

/-- The first element of a property is the same in two orderings of a list with at most one such
element. -/
theorem List.find?_eq_of_perm {α : Type} {l l' : List α} (hperm : l.Perm l') (p : α → Bool)
    (hone : (l.filter p).length ≤ 1) : l.find? p = l'.find? p := by
  rw [← List.head?_filter, ← List.head?_filter]
  have hfilter := hperm.filter p
  match hl : l.filter p with
  | [] =>
    rw [hl] at hfilter
    rw [List.Perm.nil_eq hfilter]
  | [a] =>
    rw [hl] at hfilter
    rw [List.perm_singleton.1 hfilter.symm]
  | _ :: _ :: _ =>
    rw [hl] at hone
    simp at hone

end Augment
