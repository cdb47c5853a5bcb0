import Augment.Proofs.Fresh
import Augment.Proofs.Group
import Augment.Proofs.NotifyMembers
import Augment.Proofs.PatternCache
import Mathlib.Data.List.Flatten
import Mathlib.Data.List.Nodup

/-!
# The method names a pass declares on a type

Both patterns add an impl block of the type's own to every type they extend, and Rust refuses a
type whose own impl blocks declare one name twice, or a name that one of its declared constructors
already has. The names are chosen in three places that never see one another: the configured
accessor, the constructor plan (which avoids only the declared constructors) and the
change-notification pattern's claimed names (which avoid only the names of its own fragment).

* `Member.inherentNames`, `inherentNamesOf`, `passNames`: the names a member, some fragments, and
  all fragments of a pass declare in a type's own impl blocks.
* `nodup_propertyMembers`: the properties and events of the change-notification pattern declare
  names that are pairwise distinct and distinct from the names taken before, since they declare
  only names the loop claims (`nodup_claimedBy`).
* `notifyNames_nodup`, `singleton_inherentNamesOf_of_record`: on one type, the
  change-notification pattern declares distinct names, and the singleton pattern declares the
  accessor and the generated constructor.
* `inherentNamesOf_nodup_iff`: the names a pass declares on a type are pairwise distinct and
  avoid its declared constructors exactly when the accessor avoids the declared constructors and
  the change-notification names, the generated constructor avoids the accessor and those names,
  and the change-notification names avoid the declared constructors. Nothing in the generator
  checks any of these.
-/

namespace Augment

open Augment.Rust

/-! ### Declared names -/

/-- The names of the methods a member declares in its type's own impl block. A property declares
its getter and setter when its type text is a token stream, and nothing otherwise. -/
def Member.inherentNames : Member → List String
  | .instanceAccessor accessor _ _ => [accessor]
  | .constructor name => [name]
  | .changeRegistry => registryNames
  | .property _ exposed ty _ =>
    match lex ty with
    | .ok _ => [getterName exposed, setterName exposed]
    | .error _ => []
  | .propertyEvent exposed => eventMemberNames exposed
  | .singletonTrait _ _ | .notifyTrait _ => []

/-- The names of the methods a fragment declares in its type's own impl block. -/
def Fragment.inherentNames (f : Fragment) : List String :=
  f.members.flatMap Member.inherentNames

/-- The names of the methods that the fragments declare in the own impl blocks of the type `t`. -/
def inherentNamesOf (fragments : List Fragment) (t : SymbolId) : List String :=
  (fragments.filter (·.owner == t)).flatMap Fragment.inherentNames

/-- The names the fragments of a pass under `opts` declare on the type `t`, from both patterns. -/
def passNames (opts : Options) (model : SymbolModel) (t : SymbolId) : List String :=
  inherentNamesOf ((singletonRun opts model).fragments model ++
    (notifyRun opts model).fragments model) t

/-- The names the change-notification fragments of a pass declare on the type `t`. -/
def notifyNames (opts : Options) (model : SymbolModel) (t : SymbolId) : List String :=
  inherentNamesOf ((notifyRun opts model).fragments model) t

theorem property_inherentNames_sublist (field exposed ty : String) (event : Bool) :
    List.Sublist (Member.property field exposed ty event).inherentNames
      [getterName exposed, setterName exposed] := by
  simp only [Member.inherentNames]
  split
  · exact List.Sublist.refl _
  · exact List.nil_sublist _

/-! ### Declared names of the change-notification pattern -/

/-- A member declares at most the names it claims: a property whose type text does not lex
declares nothing. -/
theorem inherentNames_sublist_claimedNames (m : Member) :
    List.Sublist m.inherentNames m.claimedNames := by
  cases m with
  | property field exposed ty event => exact property_inherentNames_sublist field exposed ty event
  | _ => exact List.Sublist.refl _

/-- The names that the properties and events of the observed fields `fs` declare. -/
def propertyNames (taken : List String) (fs : List FieldRecord) : List String :=
  (propertyMembers taken fs).1.flatMap Member.inherentNames ++
    (propertyMembers taken fs).2.flatMap eventMemberNames

/-- **The declared names stay distinct**: after the distinct names `taken`, the properties and
events of the observed fields declare names distinct from one another and from `taken`, since
they declare only names the loop claims. -/
theorem nodup_propertyMembers (fs : List FieldRecord) {taken : List String} (htaken : taken.Nodup) :
    (taken ++ propertyNames taken fs).Nodup := by
  have hsub : List.Sublist (taken ++ propertyNames taken fs) (claimedBy taken fs) := by
    unfold propertyNames claimedBy
    rw [List.flatMap_append, List.flatMap_map]
    exact ((List.Sublist.flatMap_right _ fun m _ => inherentNames_sublist_claimedNames m).append
      (List.Sublist.refl _)).append_left taken
  exact (nodup_claimedBy htaken fs).sublist hsub

/-! ### The fragments of a pass -/

/-- A type's record belongs to the symbol its node declares, and plans the constructor from that
symbol's constructors. -/
theorem typeRecord?_eq_some {model : SymbolModel} {markers : MarkerSet} {node : NodeId}
    {r : TypeRecord} (h : model.typeRecord? markers node = some r) :
    model.declaredSymbol node = some r.owner ∧
      r.constructor = .ofConstructors (model.constructors r.owner) := by
  unfold SymbolModel.typeRecord? at h
  -- each step binds one `Option`; only the last builds the record
  obtain ⟨owner, howner, h⟩ := Option.bind_eq_some_iff.1 h
  obtain ⟨-, -, h⟩ := Option.bind_eq_some_iff.1 h
  obtain ⟨-, -, h⟩ := Option.bind_eq_some_iff.1 h
  obtain ⟨name, -, h⟩ := Option.bind_eq_some_iff.1 h
  obtain ⟨ns, -, h⟩ := Option.bind_eq_some_iff.1 h
  cases h
  exact ⟨howner, rfl⟩

/-- The singleton pattern extends every type it has a record of, with the accessor and the
generated constructor. -/
theorem singletonFragment_eq_some (opts : SingletonOptions) (markers : MarkerSet)
    (g : OwnerGroup TypeRecord) :
    ∃ f, singletonFragment opts markers g = some f ∧ f.owner = g.first.owner ∧
      f.inherentNames = opts.accessor ::
        if g.first.constructor.needsConstructor then [g.first.constructor.name] else [] := by
  refine ⟨_, rfl, rfl, ?_⟩
  simp only [Fragment.inherentNames, List.flatMap_append, List.flatMap_cons,
    Member.inherentNames, List.singleton_append]
  split <;> split <;> simp [Member.inherentNames]

/-- The change-notification pattern extends every type it has a record of, with the change
registry and the properties and events of `propertyMembers`. -/
theorem notifyFragment_eq_some (opts : NotifyOptions) (markers : MarkerSet)
    (g : OwnerGroup FieldRecord) :
    ∃ f, notifyFragment opts markers g = some f ∧ f.owner = g.first.owner ∧
      f.inherentNames = registryNames ++ propertyNames registryNames g.members := by
  unfold notifyFragment propertyNames
  rcases propertyMembers registryNames g.members with ⟨props, events⟩
  refine ⟨_, rfl, rfl, ?_⟩
  simp only [Fragment.inherentNames, List.flatMap_append, List.flatMap_cons, List.flatMap_nil,
    Member.inherentNames, List.append_nil, List.flatMap_map, List.append_assoc]
  split <;> simp [Member.inherentNames]

theorem inherentNamesOf_append (fs fs' : List Fragment) (t : SymbolId) :
    inherentNamesOf (fs ++ fs') t = inherentNamesOf fs t ++ inherentNamesOf fs' t := by
  simp [inherentNamesOf, List.filter_append]

/-- The names the fragments of some groups declare on `t` are those of the groups of `t`, when
every fragment extends its group's owner. -/
theorem inherentNamesOf_filterMap {α : Type} {synth : OwnerGroup α → Option Fragment}
    (gs : List (OwnerGroup α)) (hsynth : ∀ g ∈ gs, ∀ f, synth g = some f → f.owner = g.owner)
    (t : SymbolId) :
    inherentNamesOf (gs.filterMap synth) t =
      (gs.filter (·.owner == t)).flatMap fun g => ((synth g).map Fragment.inherentNames).getD [] := by
  induction gs with
  | nil => rfl
  | cons g gs ih =>
    have ih := ih fun g' hg' => hsynth g' (List.mem_cons_of_mem _ hg')
    unfold inherentNamesOf at ih ⊢
    cases hs : synth g with
    | none =>
      by_cases hg : g.owner = t <;> simp [hs, hg, ih]
    | some f =>
      have howner := hsynth g List.mem_cons_self f hs
      by_cases hg : g.owner = t <;> simp [hs, hg, howner, ih]

/-- The names a pattern's fragments declare on `t` are those of the fragment of `t`'s group, when
every fragment extends the owner of its group's first record. -/
theorem inherentNamesOf_fragments {α : Type} (p : PatternRun α) (model : SymbolModel)
    (hsynth : ∀ g f, p.synthesize g = some f → f.owner = p.ownerOf g.first) (t : SymbolId) :
    inherentNamesOf (p.fragments model) t =
      ((groupByOwner p.ownerOf (p.records model)).find? (·.owner == t)).toList.flatMap
        fun g => ((p.synthesize g).map Fragment.inherentNames).getD [] := by
  have hgrouped := OwnerGroup.grouped_groupByOwner p.ownerOf (p.records model)
  have hsynth' : ∀ g ∈ groupByOwner p.ownerOf (p.records model), ∀ f, p.synthesize g = some f →
      f.owner = g.owner := fun g hg f hf =>
    (hsynth g f hf).trans (OwnerGroup.first_mem_of_mem_groupByOwner hg).2
  rw [PatternRun.fragments, inherentNamesOf_filterMap _ hsynth',
    OwnerGroup.filter_owner_eq_find? hgrouped.nodup]

/-! ### The names of a pass on one type -/

section Pass

variable (opts : Options) (model : SymbolModel) (t : SymbolId)

theorem singletonRun_owner {g : OwnerGroup TypeRecord} {f : Fragment}
    (hf : (singletonRun opts model).synthesize g = some f) :
    f.owner = (singletonRun opts model).ownerOf g.first := by
  obtain ⟨f', hf', howner, -⟩ := singletonFragment_eq_some opts.singleton opts.markers g
  rw [Option.some.inj (hf.symm.trans hf'), howner]
  rfl

theorem notifyRun_owner {g : OwnerGroup FieldRecord} {f : Fragment}
    (hf : (notifyRun opts model).synthesize g = some f) :
    f.owner = (notifyRun opts model).ownerOf g.first := by
  obtain ⟨f', hf', howner, -⟩ := notifyFragment_eq_some opts.notify opts.markers g
  rw [Option.some.inj (hf.symm.trans hf'), howner]
  rfl

/-- **The change-notification pattern declares no name twice** on a type. -/
theorem notifyNames_nodup : (notifyNames opts model t).Nodup := by
  rw [notifyNames, inherentNamesOf_fragments _ _ (fun _ _ => notifyRun_owner opts model) t]
  cases (groupByOwner (notifyRun opts model).ownerOf ((notifyRun opts model).records model)).find?
      (·.owner == t) with
  | none => exact List.nodup_nil
  | some g =>
    obtain ⟨f, hf, -, hnames⟩ := notifyFragment_eq_some opts.notify opts.markers g
    simp only [Option.toList_some, List.flatMap_singleton]
    rw [show (notifyRun opts model).synthesize g = some f from hf]
    simpa [hnames] using nodup_propertyMembers g.members registryNames_nodup

/-- A type the singleton pattern has a record of gets the accessor and, when it has to be
generated, the constructor of its plan. -/
theorem singleton_inherentNamesOf_of_record
    (h : ∃ r ∈ (singletonRun opts model).records model, r.owner = t) :
    inherentNamesOf ((singletonRun opts model).fragments model) t =
      opts.singleton.accessor ::
        if (ConstructorPlan.ofConstructors (model.constructors t)).needsConstructor then
          [(ConstructorPlan.ofConstructors (model.constructors t)).name]
        else [] := by
  rw [inherentNamesOf_fragments _ _ (fun _ _ => singletonRun_owner opts model) t]
  obtain ⟨g, hg⟩ : ∃ g, (groupByOwner (singletonRun opts model).ownerOf
      ((singletonRun opts model).records model)).find? (·.owner == t) = some g :=
    Option.isSome_iff_exists.1 ((OwnerGroup.find?_groupByOwner_isSome _ _ t).2 h)
  have hmem := List.mem_of_find?_eq_some hg
  have howner : g.owner = t := by simpa using List.find?_some hg
  obtain ⟨hfirst, hfirst_owner⟩ := OwnerGroup.first_mem_of_mem_groupByOwner hmem
  -- the first record was read off a type node, so it carries the plan of `t`'s constructors
  have hplan : g.first.constructor = .ofConstructors (model.constructors t) := by
    obtain ⟨n, -, hn⟩ := List.mem_filterMap.1 hfirst
    rw [(typeRecord?_eq_some hn).2, ← howner, ← hfirst_owner]
    rfl
  obtain ⟨f, hf, -, hnames⟩ := singletonFragment_eq_some opts.singleton opts.markers g
  rw [hg, Option.toList_some, List.flatMap_singleton,
    show (singletonRun opts model).synthesize g = some f from hf]
  simp only [Option.map_some, Option.getD_some, hnames, hplan]

/-- A type the singleton pattern has no record of gets nothing from it. -/
theorem singleton_inherentNamesOf_of_not_record
    (h : ¬∃ r ∈ (singletonRun opts model).records model, r.owner = t) :
    inherentNamesOf ((singletonRun opts model).fragments model) t = [] := by
  rw [inherentNamesOf_fragments _ _ (fun _ _ => singletonRun_owner opts model) t]
  have hnone := (OwnerGroup.find?_groupByOwner_isSome (singletonRun opts model).ownerOf
    ((singletonRun opts model).records model) t).not.2 h
  rw [Option.not_isSome_iff_eq_none.1 hnone]
  rfl

/-- **When a pass declares no name twice on a type.** The names the fragments of a pass declare
on `t` are pairwise distinct and avoid `t`'s declared constructors exactly when the
change-notification names avoid the declared constructors and, if `t` is a singleton type, the
accessor avoids the change-notification names and the declared constructors, and a generated
constructor avoids the accessor and the change-notification names. A pass over faithful caches
renders exactly these fragments (`PatternCache.pass_fragments`). -/
theorem inherentNamesOf_nodup_iff :
    ((passNames opts model t).Nodup ∧
        ∀ n ∈ passNames opts model t, n ∉ (model.constructors t).map (·.name)) ↔
      (∀ n ∈ notifyNames opts model t, n ∉ (model.constructors t).map (·.name)) ∧
        ((∃ r ∈ (singletonRun opts model).records model, r.owner = t) →
          opts.singleton.accessor ∉ notifyNames opts model t ∧
            opts.singleton.accessor ∉ (model.constructors t).map (·.name) ∧
            ((ConstructorPlan.ofConstructors (model.constructors t)).needsConstructor = true →
              opts.singleton.accessor ≠ (ConstructorPlan.ofConstructors (model.constructors t)).name ∧
                (ConstructorPlan.ofConstructors (model.constructors t)).name ∉
                  notifyNames opts model t)) := by
  have hnotify : (notifyNames opts model t).Nodup := notifyNames_nodup opts model t
  have hnames : passNames opts model t =
      inherentNamesOf ((singletonRun opts model).fragments model) t ++ notifyNames opts model t :=
    inherentNamesOf_append _ _ t
  rw [hnames]
  by_cases hsingleton : ∃ r ∈ (singletonRun opts model).records model, r.owner = t
  · rw [singleton_inherentNamesOf_of_record opts model t hsingleton]
    -- a generated constructor never has a declared constructor's name
    have hfresh := @ofConstructors_name_not_mem (model.constructors t)
    generalize (model.constructors t).map (·.name) = declared at hfresh ⊢
    generalize ConstructorPlan.ofConstructors (model.constructors t) = plan at hfresh ⊢
    cases hneeds : plan.needsConstructor
    · simp [hsingleton, hnotify]
      tauto
    · have hname := hfresh hneeds
      simp [hsingleton, hnotify, hname]
      tauto
  · rw [singleton_inherentNamesOf_of_not_record opts model t hsingleton]
    generalize (model.constructors t).map (·.name) = declared
    simp [hsingleton, hnotify]

end Pass

end Augment
