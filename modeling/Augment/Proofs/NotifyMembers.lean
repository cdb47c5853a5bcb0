import Augment.Pattern
import Mathlib.Data.List.Induction

/-!
# The members of a change-notification fragment

Every member of a change-notification fragment lands in one impl block of the type, so the
pattern claims names as it goes: the change registry's three names first, then for each observed
field in turn its getter and setter (or the field is left out when one of them is claimed), then
its event's three names (or the property keeps only the shared announcement when one of them is
claimed).

* `fieldOutcome`: what one field gets from the names claimed before it; `claimedBy`: the names
  claimed by the members the fields got.
* `propertyMembers_cons`: one field of the loop. `propertyMembers_append_singleton`: the loop field
  by field, with the names claimed so far read off the members already emitted, not off the
  loop's accumulator.
* `nodup_claimedBy`: the claimed names are pairwise distinct.
* `mem_events_iff`: an event is listed exactly for the properties that announce one.
* `notifyFragment_wellFormed`: the fragment is the registry, the properties in field order, their
  events in the same order and the trait; its names are pairwise distinct; and every event a
  setter announces is declared.
-/

namespace Augment

theorem getterName_ne_setterName (exposed : String) : getterName exposed ≠ setterName exposed := by
  intro h
  have := congrArg String.length h
  simp [setterName] at this

theorem eventMemberNames_nodup (exposed : String) : (eventMemberNames exposed).Nodup := by
  simp only [eventMemberNames, List.nodup_cons, List.mem_cons, not_or, List.not_mem_nil,
    not_false_eq_true, List.nodup_nil, and_true]
  -- the three names start with `_`, `s` and `o`
  refine ⟨⟨?_, ?_⟩, ?_⟩ <;> intro h <;> have := congrArg String.toList h <;> simp at this

theorem registryNames_nodup : registryNames.Nodup := by
  decide

/-- The names a member's code declares in its type's own impl block, as the pattern claims them:
a property's getter and setter, an event's three members, the registry's three members. -/
def Member.claimedNames : Member → List String
  | .instanceAccessor accessor _ _ => [accessor]
  | .constructor name => [name]
  | .changeRegistry => registryNames
  | .property _ exposed _ _ => [getterName exposed, setterName exposed]
  | .propertyEvent exposed => eventMemberNames exposed
  | .singletonTrait _ _ | .notifyTrait _ => []

/-! ### One field -/

/-- What the pattern emits for one more observed field, given the names claimed so far: nothing
when its getter or setter name is claimed; else its property, with an event of its own when the
field asks for one and the event's names are free once the getter and setter are claimed. -/
def fieldOutcome (claimed : List String) (f : FieldRecord) : Option Bool :=
  if getterName f.exposedName ∈ claimed ∨ setterName f.exposedName ∈ claimed then none
  else some (f.generateEvent && decide (∀ n ∈ eventMemberNames f.exposedName,
    n ∉ claimed ++ [getterName f.exposedName, setterName f.exposedName]))

theorem claimNames_eq (taken names : List String) :
    claimNames taken names = if ∀ n ∈ names, n ∉ taken then some (taken ++ names) else none := by
  unfold claimNames
  by_cases h : ∀ n ∈ names, n ∉ taken
  · rw [if_pos h, if_neg]
    simpa using h
  · rw [if_neg h, if_pos]
    simpa using h

/-- One field of the loop: its outcome is read off the names claimed so far, and the names it
claims are added before the next field. -/
theorem propertyMembers_cons (taken : List String) (f : FieldRecord) (rest : List FieldRecord) :
    propertyMembers taken (f :: rest) =
      match fieldOutcome taken f with
      | none => propertyMembers taken rest
      | some ev =>
        (.property f.fieldName f.exposedName f.ty ev ::
            (propertyMembers (taken ++ [getterName f.exposedName, setterName f.exposedName] ++
              if ev then eventMemberNames f.exposedName else []) rest).1,
          (if ev then [f.exposedName] else []) ++
            (propertyMembers (taken ++ [getterName f.exposedName, setterName f.exposedName] ++
              if ev then eventMemberNames f.exposedName else []) rest).2) := by
  rw [propertyMembers, claimNames_eq]
  by_cases hfree : getterName f.exposedName ∈ taken ∨ setterName f.exposedName ∈ taken
  · have hnot : ¬∀ n ∈ [getterName f.exposedName, setterName f.exposedName], n ∉ taken := by
      simpa using fun h => by tauto
    rw [if_neg hnot, fieldOutcome, if_pos hfree]
  · have hyes : ∀ n ∈ [getterName f.exposedName, setterName f.exposedName], n ∉ taken := by
      simpa [not_or] using hfree
    rw [if_pos hyes, fieldOutcome, if_neg hfree]
    dsimp only
    cases hgen : f.generateEvent with
    | false => simp
    | true =>
      rw [if_pos rfl, claimNames_eq]
      by_cases hev : ∀ n ∈ eventMemberNames f.exposedName,
          n ∉ taken ++ [getterName f.exposedName, setterName f.exposedName]
      · rw [if_pos hev, decide_eq_true hev]
        rfl
      · rw [if_neg hev, decide_eq_false hev]
        simp

/-! ### The loop, field by field -/

/-- The names claimed after the observed fields `fs`, starting from `taken`: those taken, then the
names of every property and event the fields got. -/
def claimedBy (taken : List String) (fs : List FieldRecord) : List String :=
  taken ++ ((propertyMembers taken fs).1 ++
    (propertyMembers taken fs).2.map Member.propertyEvent).flatMap Member.claimedNames

theorem claimedBy_nil (taken : List String) : claimedBy taken [] = taken := by
  simp [claimedBy, propertyMembers]

/-- The outcome of a field depends only on which names are claimed. -/
theorem fieldOutcome_congr {claimed claimed' : List String}
    (h : ∀ n, n ∈ claimed ↔ n ∈ claimed') (f : FieldRecord) :
    fieldOutcome claimed f = fieldOutcome claimed' f := by
  simp only [fieldOutcome, List.mem_append, h]

theorem claimedBy_cons_of_none {taken : List String} {f : FieldRecord} (rest : List FieldRecord)
    (h : fieldOutcome taken f = none) : claimedBy taken (f :: rest) = claimedBy taken rest := by
  simp only [claimedBy, propertyMembers_cons, h]

/-- After a field that got its property, the names claimed are those claimed by the loop, which
adds the property's names and then its event's. -/
theorem mem_claimedBy_cons_of_some {taken : List String} {f : FieldRecord} {ev : Bool}
    (rest : List FieldRecord) (h : fieldOutcome taken f = some ev) (n : String) :
    n ∈ claimedBy taken (f :: rest) ↔
      n ∈ claimedBy (taken ++ [getterName f.exposedName, setterName f.exposedName] ++
        if ev then eventMemberNames f.exposedName else []) rest := by
  simp only [claimedBy, propertyMembers_cons, h]
  -- the members of the later fields are the same on both sides
  generalize propertyMembers (taken ++ [getterName f.exposedName, setterName f.exposedName] ++
      if ev then eventMemberNames f.exposedName else []) rest = r
  cases ev <;> simp [Member.claimedNames, or_comm, or_left_comm, or_assoc]

/-- **The loop, field by field**: the properties and events of one more field are those of the
fields before, then what the new field gets from the names they claimed. -/
theorem propertyMembers_append_singleton (taken : List String) (fs : List FieldRecord)
    (f : FieldRecord) :
    propertyMembers taken (fs ++ [f]) =
      match fieldOutcome (claimedBy taken fs) f with
      | none => propertyMembers taken fs
      | some ev => ((propertyMembers taken fs).1 ++ [.property f.fieldName f.exposedName f.ty ev],
          (propertyMembers taken fs).2 ++ if ev then [f.exposedName] else []) := by
  induction fs generalizing taken with
  | nil =>
    rw [List.nil_append, propertyMembers_cons, claimedBy_nil]
    cases fieldOutcome taken f <;> simp [propertyMembers]
  | cons f₀ rest ih =>
    rw [List.cons_append, propertyMembers_cons, propertyMembers_cons]
    cases h₀ : fieldOutcome taken f₀ with
    | none =>
      dsimp only
      rw [ih, claimedBy_cons_of_none rest h₀]
    | some ev =>
      dsimp only
      rw [ih, fieldOutcome_congr (mem_claimedBy_cons_of_some rest h₀)]
      cases fieldOutcome (claimedBy (taken ++ [getterName f₀.exposedName, setterName f₀.exposedName] ++
        if ev then eventMemberNames f₀.exposedName else []) rest) f <;> simp

/-! ### What the fields get -/

theorem fieldOutcome_eq_some {claimed : List String} {f : FieldRecord} {ev : Bool}
    (h : fieldOutcome claimed f = some ev) :
    getterName f.exposedName ∉ claimed ∧ setterName f.exposedName ∉ claimed ∧
      (ev = true → ∀ n ∈ eventMemberNames f.exposedName,
        n ∉ claimed ++ [getterName f.exposedName, setterName f.exposedName]) := by
  unfold fieldOutcome at h
  split at h
  · cases h
  · rename_i hfree
    cases h
    refine ⟨fun h => hfree (.inl h), fun h => hfree (.inr h), fun hev => ?_⟩
    simp only [Bool.and_eq_true, decide_eq_true_eq] at hev
    exact hev.2

/-- The names one more field claims: its getter and setter, then its event's names. -/
theorem claimedBy_append_singleton_perm {taken : List String} {fs : List FieldRecord}
    {f : FieldRecord} {ev : Bool} (h : fieldOutcome (claimedBy taken fs) f = some ev) :
    (claimedBy taken (fs ++ [f])).Perm (claimedBy taken fs ++
      ([getterName f.exposedName, setterName f.exposedName] ++
        if ev then eventMemberNames f.exposedName else [])) := by
  have hsnoc := propertyMembers_append_singleton taken fs f
  rw [h] at hsnoc
  have hevent : ((if ev then [f.exposedName] else []).map Member.propertyEvent).flatMap
      Member.claimedNames = if ev then eventMemberNames f.exposedName else [] := by
    cases ev <;> simp [Member.claimedNames]
  unfold claimedBy
  rw [hsnoc]
  dsimp only
  simp only [List.map_append, List.flatMap_append, hevent, List.flatMap_cons, List.flatMap_nil,
    Member.claimedNames, List.append_nil, List.append_assoc]
  -- the new property's names move past the events of the earlier fields
  exact List.Perm.append_left _ (List.Perm.append_left _ (List.perm_append_comm_assoc _ _ _))

/-- The names a field claims are distinct and were free. -/
theorem nodup_append_of_fieldOutcome {claimed : List String} {f : FieldRecord} {ev : Bool}
    (hclaimed : claimed.Nodup) (h : fieldOutcome claimed f = some ev) :
    (claimed ++ ([getterName f.exposedName, setterName f.exposedName] ++
      if ev then eventMemberNames f.exposedName else [])).Nodup := by
  obtain ⟨hg, hs, hev⟩ := fieldOutcome_eq_some h
  have hnew : ([getterName f.exposedName, setterName f.exposedName] ++
      if ev then eventMemberNames f.exposedName else []).Nodup := by
    cases ev with
    | false => simpa using getterName_ne_setterName f.exposedName
    | true =>
      have hfree := hev rfl
      simp only [if_true, List.cons_append, List.nil_append, List.nodup_cons, List.mem_cons,
        not_or]
      refine ⟨⟨getterName_ne_setterName _, fun h => hfree _ h (by simp)⟩,
        fun h => hfree _ h (by simp), eventMemberNames_nodup _⟩
  refine List.nodup_append.2 ⟨hclaimed, hnew, ?_⟩
  intro a ha b hb hab
  subst hab
  rcases List.mem_append.1 hb with hb | hb
  · simp only [List.mem_cons, List.not_mem_nil, or_false] at hb
    rcases hb with rfl | rfl
    · exact hg ha
    · exact hs ha
  · cases ev with
    | false => simp at hb
    | true => exact hev rfl a hb (List.mem_append_left _ ha)

/-- **The claimed names stay distinct**: the names taken at the start and those of every member
the fields get are pairwise distinct. The induction adds one field at a time, whose names were
free. -/
theorem nodup_claimedBy {taken : List String} (htaken : taken.Nodup) (fs : List FieldRecord) :
    (claimedBy taken fs).Nodup := by
  induction fs using List.reverseRecOn with
  | nil => rwa [claimedBy_nil]
  | append_singleton fs f ih =>
    cases hout : fieldOutcome (claimedBy taken fs) f with
    | none =>
      have hsnoc := propertyMembers_append_singleton taken fs f
      rw [hout] at hsnoc
      unfold claimedBy at ih ⊢
      rwa [hsnoc]
    | some ev =>
      exact (claimedBy_append_singleton_perm hout).nodup_iff.2
        (nodup_append_of_fieldOutcome ih hout)

/-- The loop gives the fields properties and nothing else. -/
theorem eq_property_of_mem_propertyMembers {taken : List String} {fs : List FieldRecord}
    {m : Member} (hm : m ∈ (propertyMembers taken fs).1) :
    ∃ field exposed ty ev, m = .property field exposed ty ev := by
  induction fs generalizing taken with
  | nil => simp [propertyMembers] at hm
  | cons f rest ih =>
    rw [propertyMembers_cons] at hm
    cases hout : fieldOutcome taken f with
    | none =>
      rw [hout] at hm
      exact ih hm
    | some ev =>
      rw [hout] at hm
      rcases List.mem_cons.1 hm with rfl | hm
      · exact ⟨_, _, _, _, rfl⟩
      · exact ih hm

/-- The exposed name of a property that announces its own event. -/
def Member.eventOf? : Member → Option String
  | .property _ exposed _ true => some exposed
  | _ => none

theorem eventOf?_eq_some_iff {m : Member} {e : String} :
    m.eventOf? = some e ↔ ∃ field ty, m = .property field e ty true := by
  cases m with
  | property field exposed ty ev => cases ev <;> simp [Member.eventOf?, eq_comm]
  | _ => simp [Member.eventOf?]

/-- A property announces its own event exactly when the event is listed. -/
theorem events_eq_filterMap (taken : List String) (fs : List FieldRecord) :
    (propertyMembers taken fs).2 = (propertyMembers taken fs).1.filterMap Member.eventOf? := by
  induction fs generalizing taken with
  | nil => rfl
  | cons f rest ih =>
    rw [propertyMembers_cons]
    cases fieldOutcome taken f with
    | none => exact ih taken
    | some ev =>
      dsimp only
      rw [ih]
      cases ev <;> rfl

/-- A listed event belongs to a property that announces it. -/
theorem mem_events_iff (taken : List String) (fs : List FieldRecord) (e : String) :
    e ∈ (propertyMembers taken fs).2 ↔
      ∃ field ty, Member.property field e ty true ∈ (propertyMembers taken fs).1 := by
  rw [events_eq_filterMap, List.mem_filterMap]
  constructor
  · rintro ⟨m, hm, hme⟩
    obtain ⟨field, ty, rfl⟩ := eventOf?_eq_some_iff.1 hme
    exact ⟨field, ty, hm⟩
  · rintro ⟨field, ty, hm⟩
    exact ⟨_, hm, rfl⟩

/-! ### The fragment -/

theorem notifyFragment_members (opts : NotifyOptions) (markers : MarkerSet)
    (g : OwnerGroup FieldRecord) :
    ∃ fr, notifyFragment opts markers g = some fr ∧
      fr.members = [.changeRegistry] ++ (propertyMembers registryNames g.members).1 ++
        (propertyMembers registryNames g.members).2.map .propertyEvent ++
        (if opts.implementTrait then [.notifyTrait markers.crateName] else []) := by
  unfold notifyFragment
  rcases propertyMembers registryNames g.members with ⟨props, events⟩
  exact ⟨_, rfl, rfl⟩

/-- **A change-notification fragment is well formed.** Every group of observed fields gets a
fragment: the change registry, then one property per field that got one, in field order, then one
event per property that announces its own, in the same order, then the trait when it is asked
for. The names these members declare are pairwise distinct. An event is declared exactly for the
properties that announce one, so every announcement a setter makes reaches a declared method. And
the fields are taken one at a time: a field gets its property exactly when neither its getter nor
its setter name is claimed by the registry or by a member of an earlier field, and its own event
exactly when it asks for one and none of the event's names is claimed once its getter and setter
are. -/
theorem notifyFragment_wellFormed (opts : NotifyOptions) (markers : MarkerSet)
    (g : OwnerGroup FieldRecord) :
    ∃ fr, notifyFragment opts markers g = some fr ∧
      fr.members = [.changeRegistry] ++ (propertyMembers registryNames g.members).1 ++
          (propertyMembers registryNames g.members).2.map .propertyEvent ++
          (if opts.implementTrait then [.notifyTrait markers.crateName] else []) ∧
      (fr.members.flatMap Member.claimedNames).Nodup ∧
      (∀ e, Member.propertyEvent e ∈ fr.members ↔
        ∃ field ty, Member.property field e ty true ∈ fr.members) ∧
      ∀ fs f, propertyMembers registryNames (fs ++ [f]) =
        match fieldOutcome (claimedBy registryNames fs) f with
        | none => propertyMembers registryNames fs
        | some ev =>
          ((propertyMembers registryNames fs).1 ++ [.property f.fieldName f.exposedName f.ty ev],
            (propertyMembers registryNames fs).2 ++ if ev then [f.exposedName] else []) := by
  obtain ⟨fr, hfr, hmembers⟩ := notifyFragment_members opts markers g
  refine ⟨fr, hfr, hmembers, ?_, fun e => ?_, propertyMembers_append_singleton registryNames⟩
  · -- the names of the members are those the loop claims
    have hnames : fr.members.flatMap Member.claimedNames = claimedBy registryNames g.members := by
      rw [hmembers]
      cases opts.implementTrait <;> simp [claimedBy, Member.claimedNames]
    rw [hnames]
    exact nodup_claimedBy registryNames_nodup g.members
  · -- only the event list holds events, and only the properties hold properties
    have hprops : ∀ m ∈ (propertyMembers registryNames g.members).1, ∀ e', m ≠ .propertyEvent e' :=
      fun m hm e' heq => by
        obtain ⟨_, _, _, _, rfl⟩ := eq_property_of_mem_propertyMembers hm
        cases heq
    have htrait : ∀ m ∈ (if opts.implementTrait then [Member.notifyTrait markers.crateName] else []),
        m = .notifyTrait markers.crateName := by
      intro m hm
      split at hm <;> simp_all
    rw [hmembers]
    simp only [List.mem_append, List.mem_singleton, List.mem_map]
    constructor
    · rintro (((h | h) | ⟨e', he', heq⟩) | h)
      · cases h
      · exact absurd rfl (hprops _ h e)
      · cases heq
        obtain ⟨field, ty, hm⟩ := (mem_events_iff _ _ _).1 he'
        exact ⟨field, ty, .inl (.inl (.inr hm))⟩
      · cases htrait _ h
    · rintro ⟨field, ty, ((h | h) | ⟨e', -, heq⟩) | h⟩
      · cases h
      · exact .inl (.inr ⟨e, (mem_events_iff _ _ e).2 ⟨field, ty, h⟩, rfl⟩)
      · cases heq
      · cases htrait _ h

end Augment
