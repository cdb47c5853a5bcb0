import Augment.Rust.Syntax.File

/-!
# Two readers of one attribute list

The contents of an attribute's parentheses are read in two ways: as a list of attribute contents
(`parseMetaList`, how the build reads marker arguments) and as a list of options, each a literal or
attribute contents (`parseNestedMetaList`, how a derive reads its helper attributes). Both are comma
lists (`Parse.commaList`) and differ only in the element reader.

* `Parse.Simulates f good p p'`: every good value `p` reads, `p'` reads as a value mapping to it by
  `f`, from the same cursor to the same cursor.
* `Parse.Simulates.commaItem`, `Parse.Simulates.chain_go`, `Parse.Simulates.commaList`: a
  simulation of elements is one of comma lists (one round, then the rounds of the loop).
* `Parse.Simulates.runAll`: and one of whole inputs, since only the final cursor decides whether
  the input was read to its end.
* `Grammar.simulates_nestedMeta`: the option reader, when it finds attribute contents, read them
  with the contents reader.
* `parseMetaList_of_parseNestedMetaList`: so a list of options that holds no literal reads, as a
  list of attribute contents, as the same contents.
-/

namespace Augment.Rust

open Parse

variable {α β : Type}

namespace Parse

/-- `p'` reads every good value that `p` reads, as a value that `f` maps to it, from the same
cursor to the same cursor. -/
def Simulates (f : β → α) (good : α → Prop) (p : Parse α) (p' : Parse β) : Prop :=
  ∀ c a c', p c = .ok (a, c') → good a → ∃ b, p' c = .ok (b, c') ∧ a = f b

/-! ### One round of a comma list -/

/-- A round of a comma list: nothing at the end of the level; else an element, and then the end
of the level or a comma. -/
theorem commaItem_eq (item : Parse α) (c : Cursor) :
    commaItem item c =
      if c.rest.isEmpty then .ok (none, c)
      else match item c with
        | .error e => .error e
        | .ok (x, c₁) =>
          if c₁.rest.isEmpty then .ok (some (x, false), c₁)
          else match op "," c₁ with
            | .error e => .error e
            | .ok (_, c₂) => .ok (some (x, true), c₂) := by
  unfold commaItem
  simp only [atEnd, bind, get, getThe, MonadStateOf.get, pure, discard, Functor.mapConst]
  unfold StateT.bind StateT.get StateT.pure StateT.map
  simp only [pure_bind, Function.comp_apply, Function.const_apply]
  rcases c.rest.isEmpty
  · simp only [Bool.false_eq_true, if_false]
    rcases item c with e | ⟨x, c₁⟩
    · rfl
    · dsimp only [bind, Except.bind]
      rcases c₁.rest.isEmpty
      · simp only [Bool.false_eq_true, if_false]
        rcases op "," c₁ with e | ⟨_, c₂⟩ <;> rfl
      · rfl
  · rfl

variable {f : β → α} {good : α → Prop} {item : Parse α} {item' : Parse β}

/-- **One round**: a simulation of elements is one of the rounds of a comma list whose element is
good. -/
theorem Simulates.commaItem (hitem : Simulates f good item item') :
    Simulates (Option.map (Prod.map f id)) (fun o => ∀ a b, o = some (a, b) → good a)
      (commaItem item) (commaItem item') := by
  intro c o c' h hround
  rw [commaItem_eq] at h ⊢
  by_cases hend : c.rest.isEmpty
  · simp only [hend, if_true, Except.ok.injEq, Prod.mk.injEq] at h ⊢
    obtain ⟨rfl, rfl⟩ := h
    exact ⟨none, ⟨rfl, rfl⟩, rfl⟩
  simp only [hend, Bool.false_eq_true, if_false] at h ⊢
  rcases hi : item c with e | ⟨x, c₁⟩ <;> rw [hi] at h <;> dsimp only at h
  · cases h
  -- the round answers `x`, which is good, so `item'` reads it too
  have hx : good x := by
    split at h
    · cases h
      exact hround x false rfl
    · split at h
      · cases h
      · cases h
        exact hround x true rfl
  obtain ⟨b, hb, rfl⟩ := hitem c x c₁ hi hx
  rw [hb]
  dsimp only
  split at h
  · cases h
    exact ⟨some (b, false), by simp [*], rfl⟩
  · split at h
    · cases h
    · cases h
      exact ⟨some (b, true), by simp [*], rfl⟩

/-! ### The rounds of the loop -/

theorem chain_go_succ (step : Parse (Option (α × Bool))) (n : Nat) (acc : List α) (c : Cursor) :
    chain.go step (n + 1) acc c =
      match step c with
      | .ok (none, c') => .ok (acc.reverse, c')
      | .ok (some (a, true), c') => chain.go step n (a :: acc) c'
      | .ok (some (a, false), c') => .ok ((a :: acc).reverse, c')
      | .error e => .error e := by
  simp only [chain.go, bind, StateT.bind]
  rcases step c with e | ⟨o, c'⟩
  · rfl
  · rcases o with _ | ⟨a, _ | _⟩ <;> rfl

/-- What the loop has collected stays among its answers. -/
theorem mem_of_chain_go {step : Parse (Option (α × Bool))} :
    ∀ {n : Nat} {acc items : List α} {c c' : Cursor},
      chain.go step n acc c = .ok (items, c') → ∀ a ∈ acc, a ∈ items := by
  intro n
  induction n with
  | zero =>
    intro acc items c c' h a ha
    cases h
    simpa using ha
  | succ n ih =>
    intro acc items c c' h a ha
    rw [chain_go_succ] at h
    split at h
    · cases h
      simpa using ha
    · exact ih h a (List.mem_cons_of_mem _ ha)
    · cases h
      simp [ha]
    · cases h

/-- **The loop**: under a simulation of its rounds, a run of the loop whose values are all good is
a run over the values they map from. -/
theorem Simulates.chain_go {step : Parse (Option (α × Bool))} {step' : Parse (Option (β × Bool))}
    (hstep : Simulates (Option.map (Prod.map f id)) (fun o => ∀ a b, o = some (a, b) → good a)
      step step') :
    ∀ (n : Nat) (acc : List β) (c c' : Cursor) (items : List α),
      chain.go step n (acc.map f) c = .ok (items, c') → (∀ a ∈ items, good a) →
      ∃ ms, chain.go step' n acc c = .ok (ms, c') ∧ items = ms.map f := by
  intro n
  induction n with
  | zero =>
    intro acc c c' items h _
    cases h
    exact ⟨acc.reverse, rfl, by simp⟩
  | succ n ih =>
    intro acc c c' items h hgood
    rw [chain_go_succ] at h
    rw [chain_go_succ]
    rcases hc : step c with e | ⟨o, c₁⟩
    · rw [hc] at h
      cases h
    -- every value of the round ends among the answers, so the round is good
    have hround : ∀ a b, o = some (a, b) → good a := by
      rintro a b rfl
      rw [hc] at h
      cases b
      · cases h
        exact hgood a (by simp)
      · exact hgood a (mem_of_chain_go h a (by simp))
    obtain ⟨o', h', rfl⟩ := hstep c o c₁ hc hround
    rw [hc] at h
    rw [h']
    rcases o' with _ | ⟨b, _ | _⟩
    · cases h
      exact ⟨acc.reverse, rfl, by simp⟩
    · cases h
      exact ⟨(b :: acc).reverse, rfl, by simp⟩
    · exact ih (b :: acc) c₁ c' items h hgood

/-- **Comma lists**: a simulation of elements is one of comma lists of good elements. -/
theorem Simulates.commaList (hitem : Simulates f good item item') :
    Simulates (List.map f) (fun items => ∀ a ∈ items, good a) (commaList item)
      (commaList item') := by
  intro c items c' h hgood
  -- the loop is bounded by the token trees left at the start
  have hstart : ∀ {γ : Type} (step : Parse (Option (γ × Bool))),
      chain step c = chain.go step (c.rest.length + 1) [] c := fun _ => rfl
  rw [Parse.commaList, hstart] at h ⊢
  exact hitem.commaItem.chain_go _ [] c c' items h hgood

/-! ### Whole inputs -/

/-- A whole input is read when the parse succeeds with no stray token and nothing left over. -/
theorem runAll_eq_ok_iff {p : Parse α} {ts : TokenStream} {scope : Pos} {a : α} :
    runAll p ts scope = .ok a ↔
      ∃ c, p { rest := ts, scope := scope } = .ok (a, c) ∧ c.stray = none ∧ c.rest = [] := by
  unfold runAll
  rcases hp : p.run { rest := ts, scope := scope } with e | ⟨a', c⟩
  · simp only [reduceCtorEq, false_iff, not_exists, not_and]
    intro c h
    simp [StateT.run, h] at hp
  · have hp' : p { rest := ts, scope := scope } = .ok (a', c) := hp
    simp only [hp', Except.ok.injEq, Prod.mk.injEq]
    constructor
    · intro h
      split at h
      · cases h
      · split at h
        · cases h
        · rename_i hs _ hr
          cases h
          exact ⟨c, ⟨rfl, rfl⟩, hs, hr⟩
    · rintro ⟨_, ⟨rfl, rfl⟩, hs, hr⟩
      simp [hs, hr]

/-- **Whole inputs**: a simulation reads whole inputs alike, since both parses end at the same
cursor. -/
theorem Simulates.runAll {p : Parse α} {p' : Parse β} (hp : Simulates f good p p')
    {ts : TokenStream} {scope : Pos} {a : α} (h : runAll p ts scope = .ok a) (ha : good a) :
    ∃ b, runAll p' ts scope = .ok b ∧ a = f b := by
  obtain ⟨c, hrun, hstray, hrest⟩ := runAll_eq_ok_iff.1 h
  obtain ⟨b, hrun', rfl⟩ := hp _ a c hrun ha
  exact ⟨b, runAll_eq_ok_iff.2 ⟨c, hrun', hstray, hrest⟩, rfl⟩

/-- Failing at the cursor never reads anything. -/
theorem failHere_ne_ok (msg : String) (c c' : Cursor) (a : α) : failHere msg c ≠ .ok (a, c') := by
  unfold failHere
  simp only [bind, StateT.bind, get, getThe, MonadStateOf.get, StateT.get, pure, Except.pure,
    Except.bind]
  rcases c.rest with _ | ⟨t, _⟩ <;>
    simp [throw, throwThe, MonadExceptOf.throw, StateT.lift, Functor.map, Except.map]

end Parse

/-! ### Options and attribute contents -/

/-- **The option reader reads contents with the contents reader**: an element of an option list
that is attribute contents was read by `nestedMetaItem`, from the same cursor to the same
cursor. -/
theorem Grammar.simulates_nestedMeta (g : Grammar) :
    Simulates NestedMeta.contents (fun i => ∃ m, i = .contents m) g.nestedMeta g.nestedMetaItem := by
  rintro c _ c' h ⟨m, rfl⟩
  refine ⟨m, ?_, rfl⟩
  unfold Grammar.nestedMeta at h
  simp only [remaining, peek2Op, peekOp, peek3With, peek2With, peekWith, bind, get, getThe,
    MonadStateOf.get, pure] at h
  unfold StateT.bind StateT.get StateT.pure at h
  simp only [pure_bind] at h
  split at h
  · -- a literal is no contents
    simp only [bind, Except.bind] at h
    rcases hl : lit c with e | ⟨l, c₁⟩ <;> rw [hl] at h <;> cases h
  · dsimp only at h
    split at h
    · simp only [bind, Except.bind] at h
      rcases hi : g.nestedMetaItem c with e | ⟨m', c₁⟩ <;> rw [hi] at h <;> cases h
      rfl
    · exact absurd h (failHere_ne_ok _ _ _ _)

/-- **The two readers agree on contents**: an option list that reads as attribute contents only
reads, as a list of attribute contents, as the same contents. -/
theorem parseMetaList_of_parseNestedMetaList {ts : TokenStream} {scope : Pos}
    {items : List NestedMeta} (h : parseNestedMetaList ts scope = .ok items)
    (hcontents : ∀ i ∈ items, ∃ m, i = .contents m) :
    ∃ ms, parseMetaList ts scope = .ok ms ∧ items = ms.map .contents :=
  ((grammarFor ts).simulates_nestedMeta.commaList).runAll h hcontents

end Augment.Rust
