import Augment.Constructor
import Augment.Source.Index
import Mathlib.Data.List.Nodup

/-!
# Fresh names

Two places take the first free name from a sequence of candidates: the constructor plan (`new`,
`__graft_new`, `__graft_new_`, ...) and the index of a crate (`key`, `key#1`, `key#2`, ...). Both
search only as many candidates as there are taken names, plus one, and a search of that length
always succeeds: among more distinct candidates than taken names, one is free.

* `exists_not_mem_of_length_lt`: among more distinct candidates than taken names, one is free.
* `freeConstructorName_spec`: a generated constructor takes the first candidate name that no
  declared constructor has; `freeConstructorName_not_mem`, `ofConstructors_name_not_mem`: so its
  name is no declared constructor's.
* `ofConstructors_first_private_or_first_free`: the accessor calls the first private parameterless
  constructor, or else a generated one under the first free candidate name.
* `Source.freshKey_of_not_mem`, `Source.freshKey_of_mem`: the index keeps a free key, and gives a
  taken one its first free suffix.
* `Source.freshKey_not_mem`: the key the index allocates is free.
* `Source.freshKey_of_mem_of_not_mem`: a taken key whose form `key#1` is free gets `key#1`.
* `Source.freshKey_congr`: the allocated key depends only on which of the key's variants are
  taken.
-/

namespace Augment

/-- Among more distinct candidates than there are taken names, one is free. -/
theorem exists_not_mem_of_length_lt {α : Type} {cands taken : List α} (hnodup : cands.Nodup)
    (hlen : taken.length < cands.length) : ∃ a ∈ cands, a ∉ taken := by
  by_contra hall
  have hsub : cands ⊆ taken := fun a ha => by
    by_contra hna
    exact hall ⟨a, ha, hna⟩
  have := hnodup.length_le_of_subset hsub
  omega

/-! ### The generated constructor -/

theorem length_fallbackConstructorName (k : Nat) :
    (fallbackConstructorName k).length = 11 + k := by
  simp [fallbackConstructorName, String.length_ofList]
  rfl

theorem fallbackConstructorName_injective : Function.Injective fallbackConstructorName := by
  intro k k' h
  have := congrArg String.length h
  simp only [length_fallbackConstructorName] at this
  omega

theorem new_ne_fallbackConstructorName (k : Nat) : "new" ≠ fallbackConstructorName k := by
  intro h
  have := congrArg String.length h
  rw [length_fallbackConstructorName] at this
  have hnew : "new".length = 3 := rfl
  omega

/-- The names a generated constructor is tried under, in order: `new`, then `__graft_new` followed
by ever more underscores. -/
def constructorCandidate : Nat → String
  | 0 => "new"
  | k + 1 => fallbackConstructorName k

/-- **The generated constructor takes the first free candidate.** The search only looks at the
first `cs.length + 2` candidates, but it never runs out: they are distinct, so not all of them
are taken. -/
theorem freeConstructorName_spec (cs : List Constructor) :
    ∃ n, freeConstructorName cs = constructorCandidate n ∧
      constructorCandidate n ∉ cs.map (·.name) ∧ ∀ j < n, constructorCandidate j ∈ cs.map (·.name) := by
  have htaken : ∀ n, cs.any (·.name == n) = true ↔ n ∈ cs.map (·.name) := by
    intro n
    simp
  unfold freeConstructorName
  dsimp only
  split
  · rename_i hnew
    exact ⟨0, rfl, by simpa [htaken, constructorCandidate] using hnew, fun j hj => absurd hj (Nat.not_lt_zero j)⟩
  · rename_i hnew
    have hnew' : "new" ∈ cs.map (·.name) := by simpa [htaken] using hnew
    split
    · rename_i k hk
      obtain ⟨hfree, -, hbefore⟩ := List.find?_range_eq_some.1 hk
      refine ⟨k + 1, rfl, by simpa [htaken, constructorCandidate] using hfree, fun j hj => ?_⟩
      cases j with
      | zero => exact hnew'
      | succ j => simpa [htaken, constructorCandidate] using hbefore j (by omega)
    · -- every fallback is taken, yet one of the candidates must be free
      rename_i hnone
      exfalso
      have hnodup : ("new" :: (List.range (cs.length + 1)).map fallbackConstructorName).Nodup := by
        refine List.nodup_cons.2 ⟨?_, (List.nodup_range).map fallbackConstructorName_injective⟩
        simpa using fun k _ => (new_ne_fallbackConstructorName k).symm
      have hlen : (cs.map (·.name)).length <
          ("new" :: (List.range (cs.length + 1)).map fallbackConstructorName).length := by
        simp only [List.length_map, List.length_cons, List.length_range]
        omega
      obtain ⟨n, hn, hfree⟩ := exists_not_mem_of_length_lt hnodup hlen
      rcases List.mem_cons.1 hn with rfl | hn
      · exact hfree hnew'
      · obtain ⟨k, hk, rfl⟩ := List.mem_map.1 hn
        exact hfree (by simpa [htaken] using List.find?_eq_none.1 hnone k hk)

/-- The generated constructor is fresh: no declared constructor has its name. -/
theorem freeConstructorName_not_mem (cs : List Constructor) :
    freeConstructorName cs ∉ cs.map (·.name) := by
  obtain ⟨n, hn, hfree, -⟩ := freeConstructorName_spec cs
  rw [hn]
  exact hfree

/-- The constructor the accessor calls is generated under a name no declared constructor has. -/
theorem ofConstructors_name_not_mem {cs : List Constructor}
    (h : (ConstructorPlan.ofConstructors cs).needsConstructor = true) :
    (ConstructorPlan.ofConstructors cs).name ∉ cs.map (·.name) := by
  unfold ConstructorPlan.ofConstructors at h ⊢
  split
  · rename_i heq
    simp [heq, ConstructorPlan.needsConstructor] at h
  · exact freeConstructorName_not_mem cs

/-- **The plan picks the first private parameterless constructor, or the first free name.** If
some declared constructor is private and takes no parameters, the accessor calls the first such
one. Otherwise it calls a generated constructor named by the first candidate that no declared
constructor has, which is so unlike every declared name. -/
theorem ofConstructors_first_private_or_first_free (cs : List Constructor) :
    (∃ pre c post, cs = pre ++ c :: post ∧ c.visibility = .inherited ∧ c.params = 0 ∧
        (∀ d ∈ pre, ¬(d.visibility = .inherited ∧ d.params = 0)) ∧
        ConstructorPlan.ofConstructors cs = .existing c.name) ∨
      ((∀ d ∈ cs, ¬(d.visibility = .inherited ∧ d.params = 0)) ∧
        ∃ n, ConstructorPlan.ofConstructors cs = .synthesize (constructorCandidate n) ∧
          constructorCandidate n ∉ cs.map (·.name) ∧
          ∀ j < n, constructorCandidate j ∈ cs.map (·.name)) := by
  have hpp : ∀ d : Constructor,
      d.isPrivateParameterless = true ↔ d.visibility = .inherited ∧ d.params = 0 := by
    intro d
    simp [Constructor.isPrivateParameterless]
  unfold ConstructorPlan.ofConstructors
  split
  · rename_i c hc
    obtain ⟨hcpp, pre, post, hcs, hpre⟩ := List.find?_eq_some_iff_append.1 hc
    refine .inl ⟨pre, c, post, hcs, ((hpp c).1 hcpp).1, ((hpp c).1 hcpp).2, fun d hd => ?_, rfl⟩
    rw [← hpp]
    simpa using hpre d hd
  · rename_i hnone
    obtain ⟨n, hn, hfree, hbefore⟩ := freeConstructorName_spec cs
    refine .inr ⟨fun d hd => ?_, n, by rw [hn], hfree, hbefore⟩
    rw [← hpp]
    simpa using List.find?_eq_none.1 hnone d hd

/-! ### Keys of the index -/

namespace Source

/-- The `n`-th fallback of a taken key: the key with the suffix `#(n + 1)`. -/
def suffixedKey (key : String) (n : Nat) : String :=
  key ++ "#" ++ toString (n + 1)

theorem suffixedKey_injective (key : String) : Function.Injective (suffixedKey key) := by
  intro a b h
  -- the decimal digits after the common `key#` are equal, and they determine the number
  have hdigits : Nat.toDigits 10 (a + 1) = Nat.toDigits 10 (b + 1) := by
    have := congrArg String.toList h
    simpa [suffixedKey, String.toList_append, Nat.toString_eq_ofList_toDigits] using this
  have := calc
    a + 1 = Nat.ofDigitChars 10 (Nat.toDigits 10 (a + 1)) 0 := Nat.ofDigitChars_ten_toDigits.symm
    _ = Nat.ofDigitChars 10 (Nat.toDigits 10 (b + 1)) 0 := by rw [hdigits]
    _ = b + 1 := Nat.ofDigitChars_ten_toDigits
  omega

theorem freshKey_of_not_mem {taken : List String} {key : String} (h : key ∉ taken) :
    freshKey taken key = key := by
  simp [freshKey, h]

/-- A taken key gets its first free suffix. -/
theorem freshKey_of_mem {taken : List String} {key : String} (h : key ∈ taken) :
    ∃ n, freshKey taken key = suffixedKey key n ∧ suffixedKey key n ∉ taken ∧
      ∀ j < n, suffixedKey key j ∈ taken := by
  unfold freshKey
  rw [if_neg (by simp [h])]
  dsimp only
  split
  · rename_i n hn
    obtain ⟨hfree, -, hbefore⟩ := List.find?_range_eq_some.1 hn
    exact ⟨n, rfl, by simpa [suffixedKey] using hfree,
      fun j hj => by simpa [suffixedKey] using hbefore j hj⟩
  · -- the search covers more suffixes than there are taken keys, so it finds one
    rename_i hnone
    exfalso
    have hlen : taken.length < ((List.range (taken.length + 1)).map (suffixedKey key)).length := by
      simp only [List.length_map, List.length_range]
      omega
    obtain ⟨c, hc, hfree⟩ := exists_not_mem_of_length_lt
      ((List.nodup_range).map (suffixedKey_injective key)) hlen
    obtain ⟨k, hk, rfl⟩ := List.mem_map.1 hc
    exact hfree (by simpa [suffixedKey] using List.find?_eq_none.1 hnone k hk)

/-- The allocated key is the key itself or one of its suffixed forms. -/
theorem freshKey_eq_or (taken : List String) (key : String) :
    freshKey taken key = key ∨ ∃ n, freshKey taken key = suffixedKey key n := by
  by_cases h : key ∈ taken
  · obtain ⟨n, hn, -⟩ := freshKey_of_mem h
    exact .inr ⟨n, hn⟩
  · exact .inl (freshKey_of_not_mem h)

/-- A taken key whose first suffixed form `key#1` is free gets that form. -/
theorem freshKey_of_mem_of_not_mem {taken : List String} {key : String} (h : key ∈ taken)
    (h0 : suffixedKey key 0 ∉ taken) : freshKey taken key = suffixedKey key 0 := by
  obtain ⟨n, hn, -, hbefore⟩ := freshKey_of_mem h
  -- the first free suffix is the first one
  have : n = 0 := by
    by_contra hne
    exact h0 (hbefore 0 (Nat.pos_of_ne_zero hne))
  rw [hn, this]

/-- **The allocated key is free.** -/
theorem freshKey_not_mem (taken : List String) (key : String) : freshKey taken key ∉ taken := by
  by_cases h : key ∈ taken
  · obtain ⟨n, hkey, hfree, -⟩ := freshKey_of_mem h
    rw [hkey]
    exact hfree
  · rw [freshKey_of_not_mem h]
    exact h

/-- The allocated key depends only on which of the key's variants are taken: two taken lists
that agree on the key and on its suffixed forms allocate the same key. -/
theorem freshKey_congr {taken taken' : List String} {key : String}
    (hkey : key ∈ taken ↔ key ∈ taken')
    (hsuffixed : ∀ n, suffixedKey key n ∈ taken ↔ suffixedKey key n ∈ taken') :
    freshKey taken key = freshKey taken' key := by
  by_cases h : key ∈ taken
  · obtain ⟨n, hn, hfree, hbefore⟩ := freshKey_of_mem h
    obtain ⟨n', hn', hfree', hbefore'⟩ := freshKey_of_mem (hkey.1 h)
    rw [hn, hn']
    -- both are the first free suffix
    have : n = n' := by
      rcases Nat.lt_trichotomy n n' with hlt | heq | hgt
      · exact absurd ((hsuffixed n).2 (hbefore' n hlt)) hfree
      · exact heq
      · exact absurd ((hsuffixed n').1 (hbefore n' hgt)) hfree'
    rw [this]
  · rw [freshKey_of_not_mem h, freshKey_of_not_mem fun h' => h (hkey.2 h')]

end Source

end Augment
