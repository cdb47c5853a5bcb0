import Augment.Group
import Mathlib.Data.List.Induction

/-!
# Grouping partitions the records by owner

`groupByOwner` folds `OwnerGroup.insert` over the records. After any prefix of the records the
groups satisfy `OwnerGroup.Grouped`: their owners are pairwise distinct, each group holds exactly
the records of its owner in their order, and every record's owner has a group.

* `OwnerGroup.insert_of_mem`, `OwnerGroup.insert_of_not_mem`: inserting a record appends it to the
  group of its owner, or opens a new group at the end.
* `OwnerGroup.grouped_insert`: inserting the next record keeps the groups grouped.
* `OwnerGroup.grouped_groupByOwner`: the groups of a record list are grouped.
* `OwnerGroup.owner_eq_of_mem_groupByOwner`, `OwnerGroup.first_eq_of_mem_groupByOwner`: every
  record of a group has the group's owner, and the group's first record is the first record of
  that owner.
* `OwnerGroup.filter_owner_eq_find?`, `OwnerGroup.find?_groupByOwner_isSome`: an owner has at most
  one group, and has one exactly when one of the records is its.
* `OwnerGroup.owners_groupByOwner`: the owners of the groups are those of the records, each once,
  in order of first appearance.
* `OwnerGroup.flatMap_members_groupByOwner_perm`: the groups together hold every record once.
* `OwnerGroup.groupByOwner_partitions_records`: grouping the present records of a list of optional
  records partitions them by owner.
-/

namespace Augment.OwnerGroup

variable {α : Type} (ownerOf : α → SymbolId)

/-- The groups are those of the records `rs`: one per owner, each holding exactly the records of
its owner in their order, and one for every record's owner. -/
structure Grouped (rs : List α) (gs : List (OwnerGroup α)) : Prop where
  nodup : (gs.map owner).Nodup
  members : ∀ g ∈ gs, g.members = rs.filter fun r => ownerOf r == g.owner
  complete : ∀ r ∈ rs, ∃ g ∈ gs, g.owner = ownerOf r

variable {ownerOf}

/-- A record whose owner has a group is appended to that group, and only to it. -/
theorem insert_of_mem {gs : List (OwnerGroup α)} {r : α} (hnodup : (gs.map owner).Nodup)
    (hmem : ∃ g ∈ gs, g.owner = ownerOf r) :
    insert ownerOf gs r =
      gs.map fun g => if g.owner = ownerOf r then { g with rest := g.rest ++ [r] } else g := by
  induction gs with
  | nil => simp at hmem
  | cons g gs ih =>
    rw [List.map_cons, List.nodup_cons] at hnodup
    by_cases hg : g.owner = ownerOf r
    · -- the other groups have other owners and stay as they are
      have hothers : ∀ g' ∈ gs, g'.owner ≠ ownerOf r := fun g' hg' heq =>
        hnodup.1 (hg ▸ heq ▸ List.mem_map_of_mem hg')
      simp only [insert, hg, beq_self_eq_true, if_true, List.map_cons]
      rw [List.map_congr_left fun g' hg' => if_neg (hothers g' hg'), List.map_id']
    · obtain ⟨g', hg', howner⟩ := hmem
      have hmem' : ∃ g ∈ gs, g.owner = ownerOf r := by
        rcases List.mem_cons.1 hg' with rfl | hg'
        · exact absurd howner hg
        · exact ⟨g', hg', howner⟩
      have hne : (g.owner == ownerOf r) = false := by simpa using hg
      simp only [insert, hne, List.map_cons, if_neg hg]
      rw [ih hnodup.2 hmem']
      rfl

/-- A record whose owner has no group opens a new group at the end. -/
theorem insert_of_not_mem {gs : List (OwnerGroup α)} {r : α}
    (hnot : ∀ g ∈ gs, g.owner ≠ ownerOf r) :
    insert ownerOf gs r = gs ++ [{ owner := ownerOf r, first := r, rest := [] }] := by
  induction gs with
  | nil => rfl
  | cons g gs ih =>
    have hne : (g.owner == ownerOf r) = false := by simpa using hnot g List.mem_cons_self
    simp only [insert, hne, List.cons_append]
    rw [ih fun g' hg' => hnot g' (List.mem_cons_of_mem _ hg')]
    rfl

/-- Inserting a record whose owner has a group keeps the owners. -/
theorem map_owner_insert_of_mem {gs : List (OwnerGroup α)} {r : α} (hnodup : (gs.map owner).Nodup)
    (hmem : ∃ g ∈ gs, g.owner = ownerOf r) :
    (insert ownerOf gs r).map owner = gs.map owner := by
  rw [insert_of_mem hnodup hmem, List.map_map]
  refine List.map_congr_left fun g _ => ?_
  by_cases hg : g.owner = ownerOf r <;> simp [hg]

/-- **The step**: inserting the next record keeps the groups grouped. -/
theorem grouped_insert {rs : List α} {gs : List (OwnerGroup α)} {r : α} (h : Grouped ownerOf rs gs) :
    Grouped ownerOf (rs ++ [r]) (insert ownerOf gs r) := by
  by_cases hmem : ∃ g ∈ gs, g.owner = ownerOf r
  · rw [insert_of_mem h.nodup hmem]
    constructor
    · -- the owners are those of the old groups
      rw [← insert_of_mem h.nodup hmem, map_owner_insert_of_mem h.nodup hmem]
      exact h.nodup
    · intro g' hg'
      obtain ⟨g, hg, rfl⟩ := List.mem_map.1 hg'
      by_cases howner : g.owner = ownerOf r
      · rw [if_pos howner]
        show g.first :: (g.rest ++ [r]) = (rs ++ [r]).filter fun x => ownerOf x == g.owner
        rw [List.filter_append, ← h.members g hg]
        simp [members, howner]
      · have hne : (ownerOf r == g.owner) = false := by simpa using Ne.symm howner
        rw [if_neg howner, List.filter_append, ← h.members g hg]
        simp [hne]
    · intro x hx
      rcases List.mem_append.1 hx with hx | hx
      · obtain ⟨g, hg, howner⟩ := h.complete x hx
        refine ⟨_, List.mem_map_of_mem hg, ?_⟩
        by_cases hg' : g.owner = ownerOf r
        · rw [if_pos hg']
          exact howner
        · rw [if_neg hg']
          exact howner
      · obtain ⟨g, hg, howner⟩ := hmem
        rw [List.mem_singleton.1 hx]
        refine ⟨_, List.mem_map_of_mem hg, ?_⟩
        rw [if_pos howner]
        exact howner
  · have hmem : ∀ g ∈ gs, g.owner ≠ ownerOf r := fun g hg heq => hmem ⟨g, hg, heq⟩
    rw [insert_of_not_mem hmem]
    -- no earlier record has the new owner, since its owner would have a group
    have hnone : (rs.filter fun x => ownerOf x == ownerOf r) = [] := by
      rw [List.filter_eq_nil_iff]
      intro x hx heq
      obtain ⟨g, hg, howner⟩ := h.complete x hx
      exact hmem g hg (howner.trans (by simpa using heq))
    constructor
    · rw [List.map_append, List.nodup_append]
      refine ⟨h.nodup, by simp, ?_⟩
      intro o ho o' ho' heq
      obtain ⟨g, hg, rfl⟩ := List.mem_map.1 ho
      exact hmem g hg (heq.trans (List.mem_singleton.1 ho'))
    · intro g' hg'
      rcases List.mem_append.1 hg' with hg' | hg'
      · have hne : (ownerOf r == g'.owner) = false := by simpa using Ne.symm (hmem g' hg')
        rw [List.filter_append, ← h.members g' hg']
        simp [hne]
      · rw [List.mem_singleton.1 hg', List.filter_append, hnone]
        simp [members]
    · intro x hx
      rcases List.mem_append.1 hx with hx | hx
      · obtain ⟨g, hg, howner⟩ := h.complete x hx
        exact ⟨g, List.mem_append_left _ hg, howner⟩
      · rw [List.mem_singleton.1 hx]
        exact ⟨_, List.mem_append_right _ (List.mem_singleton_self _), rfl⟩

/-- Folding the remaining records into grouped groups keeps them grouped. -/
theorem grouped_foldl {rs : List α} {gs : List (OwnerGroup α)} (h : Grouped ownerOf rs gs) :
    ∀ rest : List α, Grouped ownerOf (rs ++ rest) (rest.foldl (insert ownerOf) gs) := by
  intro rest
  induction rest generalizing rs gs with
  | nil => simpa using h
  | cons r rest ih =>
    have := ih (grouped_insert (r := r) h)
    rwa [List.append_assoc, List.singleton_append] at this

/-- **The run**: the groups of a record list are grouped. -/
theorem grouped_groupByOwner (ownerOf : α → SymbolId) (rs : List α) :
    Grouped ownerOf rs (groupByOwner ownerOf rs) := by
  have hnil : Grouped ownerOf [] ([] : List (OwnerGroup α)) :=
    ⟨List.nodup_nil, by simp, by simp⟩
  simpa [groupByOwner] using grouped_foldl hnil rs

/-- Every record of a group has the group's owner. -/
theorem owner_eq_of_mem_groupByOwner {rs : List α} {g : OwnerGroup α}
    (hg : g ∈ groupByOwner ownerOf rs) {r : α} (hr : r ∈ g.members) : ownerOf r = g.owner := by
  rw [(grouped_groupByOwner ownerOf rs).members g hg, List.mem_filter] at hr
  simpa using hr.2

/-- The first record of a group is the first record of its owner. -/
theorem first_eq_of_mem_groupByOwner {rs : List α} {g : OwnerGroup α}
    (hg : g ∈ groupByOwner ownerOf rs) : rs.find? (fun r => ownerOf r == g.owner) = some g.first := by
  have hmembers := (grouped_groupByOwner ownerOf rs).members g hg
  rw [← List.head?_filter, ← hmembers]
  rfl

/-- The first record of a group is one of the records, and has the group's owner. -/
theorem first_mem_of_mem_groupByOwner {rs : List α} {g : OwnerGroup α}
    (hg : g ∈ groupByOwner ownerOf rs) : g.first ∈ rs ∧ ownerOf g.first = g.owner := by
  have hfirst : g.first ∈ g.members := List.mem_cons_self
  refine ⟨?_, owner_eq_of_mem_groupByOwner hg hfirst⟩
  rw [(grouped_groupByOwner ownerOf rs).members g hg] at hfirst
  exact (List.mem_filter.1 hfirst).1

/-! ### The group of one owner -/

/-- Among groups with distinct owners, the groups of an owner are the one `find?` picks. -/
theorem filter_owner_eq_find? {gs : List (OwnerGroup α)} (h : (gs.map owner).Nodup)
    (t : SymbolId) : gs.filter (·.owner == t) = (gs.find? (·.owner == t)).toList := by
  induction gs with
  | nil => rfl
  | cons g gs ih =>
    rw [List.map_cons, List.nodup_cons] at h
    by_cases hg : g.owner = t
    · -- no later group has the owner `t`
      have hrest : gs.filter (·.owner == t) = [] := by
        rw [List.filter_eq_nil_iff]
        intro g' hg' heq
        exact h.1 (hg ▸ (beq_iff_eq.1 heq) ▸ List.mem_map_of_mem hg')
      simp [hg, hrest]
    · have hne : (g.owner == t) = false := by simpa using hg
      simp [hne, ih h.2]

/-- The groups of the records have a group of `t` exactly when a record has the owner `t`. -/
theorem find?_groupByOwner_isSome (ownerOf : α → SymbolId) (rs : List α) (t : SymbolId) :
    ((groupByOwner ownerOf rs).find? (·.owner == t)).isSome ↔ ∃ r ∈ rs, ownerOf r = t := by
  rw [List.find?_isSome]
  constructor
  · rintro ⟨g, hg, howner⟩
    obtain ⟨hfirst, hfirst_owner⟩ := first_mem_of_mem_groupByOwner hg
    exact ⟨g.first, hfirst, hfirst_owner.trans (by simpa using howner)⟩
  · rintro ⟨r, hr, rfl⟩
    obtain ⟨g, hg, howner⟩ := (grouped_groupByOwner ownerOf rs).complete r hr
    exact ⟨g, hg, by simp [howner]⟩

/-! ### Owners and records across the groups -/

/-- Appending an element keeps the first occurrences, and adds the element if it is new. -/
theorem eraseDups_append_singleton {β : Type} [BEq β] [LawfulBEq β] (l : List β) (a : β) :
    (l ++ [a]).eraseDups = l.eraseDups ++ if a ∈ l then [] else [a] := by
  rw [List.eraseDups_append]
  by_cases h : a ∈ l <;> simp [List.removeAll, List.eraseDups_cons, h]

theorem groupByOwner_append_singleton (ownerOf : α → SymbolId) (rs : List α) (r : α) :
    groupByOwner ownerOf (rs ++ [r]) = insert ownerOf (groupByOwner ownerOf rs) r := by
  simp [groupByOwner, List.foldl_append]

/-- The owners of the groups are the owners of the records, each once, in the order in which
they first appear. -/
theorem owners_groupByOwner (ownerOf : α → SymbolId) (rs : List α) :
    (groupByOwner ownerOf rs).map owner = (rs.map ownerOf).eraseDups := by
  induction rs using List.reverseRecOn with
  | nil => rfl
  | append_singleton rs r ih =>
    rw [groupByOwner_append_singleton, List.map_append, List.map_singleton,
      eraseDups_append_singleton, ← ih]
    by_cases hmem : ∃ g ∈ groupByOwner ownerOf rs, g.owner = ownerOf r
    · -- the owner has a group already, so it occurs among the earlier records
      have hold : ownerOf r ∈ rs.map ownerOf := by
        obtain ⟨g, hg, howner⟩ := hmem
        rw [← List.mem_eraseDups, ← ih, ← howner]
        exact List.mem_map_of_mem hg
      rw [map_owner_insert_of_mem (grouped_groupByOwner ownerOf rs).nodup hmem, if_pos hold,
        List.append_nil]
    · have hnew : ownerOf r ∉ rs.map ownerOf := by
        intro hold
        rw [← List.mem_eraseDups, ← ih, List.mem_map] at hold
        exact hmem hold
      rw [insert_of_not_mem fun g hg heq => hmem ⟨g, hg, heq⟩, if_neg hnew, List.map_append]
      rfl

/-- Inserting a record adds it once to the records of the groups, wherever its group stands. -/
theorem flatMap_members_insert_perm (gs : List (OwnerGroup α)) (r : α) :
    ((insert ownerOf gs r).flatMap members).Perm (gs.flatMap members ++ [r]) := by
  induction gs with
  | nil => rfl
  | cons g gs ih =>
    by_cases hg : g.owner = ownerOf r
    · -- the record joins the end of the first group, before the later groups' records
      simp only [insert, hg, beq_self_eq_true, if_true, List.flatMap_cons, members,
        List.cons_append, List.append_assoc, List.perm_cons, List.nil_append]
      exact (List.perm_append_left_iff _).2 (List.perm_append_singleton r _).symm
    · have hne : (g.owner == ownerOf r) = false := by simpa using hg
      simp only [insert, hne, List.flatMap_cons, List.append_assoc]
      exact ih.append_left _

/-- The groups together hold every record exactly once. -/
theorem flatMap_members_groupByOwner_perm (ownerOf : α → SymbolId) (rs : List α) :
    ((groupByOwner ownerOf rs).flatMap members).Perm rs := by
  induction rs using List.reverseRecOn with
  | nil => rfl
  | append_singleton rs r ih =>
    rw [groupByOwner_append_singleton]
    exact (flatMap_members_insert_perm _ r).trans (ih.append_right [r])

/-- **Grouping partitions the records by owner.** Of a list of optional records, the present ones
are grouped: the groups' owners are the records' owners, each once, in the order of their first
present record; every group holds exactly the present records of its owner, in order (and at
least one, its `first`); and the groups together hold every present record exactly once. So two
records share a group exactly when they have the same owner identity. -/
theorem groupByOwner_partitions_records (ownerOf : α → SymbolId) (records : List (Option α)) :
    (groupByOwner ownerOf (records.filterMap id)).map owner =
        ((records.filterMap id).map ownerOf).eraseDups ∧
      (∀ g ∈ groupByOwner ownerOf (records.filterMap id),
        g.members = (records.filterMap id).filter fun r => ownerOf r == g.owner) ∧
      ((groupByOwner ownerOf (records.filterMap id)).flatMap members).Perm (records.filterMap id) :=
  ⟨owners_groupByOwner ownerOf _, (grouped_groupByOwner ownerOf _).members,
    flatMap_members_groupByOwner_perm ownerOf _⟩

end Augment.OwnerGroup
