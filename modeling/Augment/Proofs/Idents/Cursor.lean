import Mathlib
import Augment.Proofs.Idents.Tokens
import Augment.Rust.Syntax.Cursor

/-!
# Reading keeps the identifiers of the input

A parse reads the tokens left at its level, descends into groups and may go back to a cursor it
saw before. It never makes up a token: every cursor it reaches holds a rest of the input or of a
group inside it. So when every identifier of the input is an ASCII identifier, so is every
identifier left to read, and every identifier a parse answers. (The property is fixed rather
than a parameter: a spec whose predicate were left open would reach `mvcgen` as a metavariable,
and a match on an answer could then no longer be split.)

The specifications are Hoare triples over the parse monad, one for each reading primitive, and
`mvcgen` composes them for every parser built from the primitives.

* `Cursor.Good c`: every identifier token left to read at `c` is an ASCII identifier
  (`AsciiIdent`).
* `Parse.skip_spec`, `Parse.lit_spec`, `Parse.inGroup_spec`, ...: every primitive keeps its cursor
  good; `Parse.ident_spec`, `Parse.anyIdent_spec`: the identifiers read are ASCII identifiers.
* `Parse.many_spec_of`, `Parse.chain_spec_of`, `Parse.inGroup_spec_of`, `Parse.attempt_spec_of`:
  the combinators keep what their steps answer.
* `Parse.run_of_triple`, `Parse.triple_of_run`: a triple says what a run from a good cursor
  answers.
-/

namespace Augment.Rust

open Std.Do

set_option mvcgen.warning false

/-- The text of an identifier token of a source whose identifiers are ASCII: spelled as an
identifier, plain or raw, in ASCII characters only. -/
def AsciiIdent (s : String) : Prop :=
  IdentText s ∧ Text.isAsciiText s = true

/-- Every identifier token left to read at the cursor, inside groups too, is an ASCII
identifier. -/
@[irreducible] def Cursor.Good (c : Cursor) : Prop :=
  TokenStream.IdentsAll AsciiIdent c.rest

variable {α : Type}

namespace Cursor

theorem good_iff {c : Cursor} : c.Good ↔ TokenStream.IdentsAll AsciiIdent c.rest := by
  unfold Cursor.Good; rfl

@[simp] theorem good_mk (r : TokenStream) (scope : Pos) (stray : Option (Pos × Delimiter)) :
    Cursor.Good { rest := r, scope, stray } ↔ TokenStream.IdentsAll AsciiIdent r :=
  good_iff

theorem Good.cons {c : Cursor} (h : c.Good) {t : TokenTree} {rest : TokenStream}
    (hc : c.rest = t :: rest) :
    (∀ x ∈ t.identTexts, AsciiIdent x) ∧ TokenStream.IdentsAll AsciiIdent rest := by
  have h' := good_iff.1 h
  rw [hc] at h'
  exact TokenStream.identsAll_cons.1 h'

theorem Good.tail {c : Cursor} (h : c.Good) {t : TokenTree} {rest : TokenStream}
    (hc : c.rest = t :: rest) : TokenStream.IdentsAll AsciiIdent rest :=
  (h.cons hc).2

theorem Good.drop {c : Cursor} (h : c.Good) (n : Nat) :
    TokenStream.IdentsAll AsciiIdent (c.rest.drop n) :=
  TokenStream.IdentsAll.drop (good_iff.1 h) n

theorem Good.head_ident {c : Cursor} (h : c.Good) {s : String} {p : Pos} {rest : TokenStream}
    (hc : c.rest = .ident s p :: rest) : AsciiIdent s :=
  (h.cons hc).1 s (by simp [TokenTree.identTexts])

theorem Good.inner {c : Cursor} (h : c.Good) {d : Delimiter} {inner : TokenStream}
    {o cl : Pos} {rest : TokenStream} (hc : c.rest = .group d inner o cl :: rest) :
    TokenStream.IdentsAll AsciiIdent inner := by
  simpa [TokenTree.identTexts, TokenStream.IdentsAll] using (h.cons hc).1

end Cursor

/-- A literal read off the front leaves a rest of the stream. -/
theorem TokenStream.leadingLit_rest {ts rest : TokenStream} {l : Lit}
    (h : leadingLit ts = some (l, rest)) : ∃ n, rest = ts.drop n := by
  unfold leadingLit at h
  split at h
  · cases h
    exact ⟨1, rfl⟩
  · split at h
    · cases h
      exact ⟨1, rfl⟩
    · cases h
  · split at h
    · split at h
      · cases h
        exact ⟨2, rfl⟩
      · cases h
    · cases h
  · cases h

namespace Parse

/-! ### Triples and runs -/

theorem triple_of_run {p : Parse α} {Q : α → Prop}
    (h : ∀ c a c', c.Good → p.run c = .ok (a, c') → Q a ∧ c'.Good) :
    ⦃fun c => ⌜c.Good⌝⦄ p ⦃⇓? r => ⌜Q r⌝ ∧ fun c => ⌜c.Good⌝⦄ := by
  intro c hc
  simp only [wp, PredTrans.apply_pushArg]
  cases hrun : p.run c with
  | error e => trivial
  | ok r => exact h c r.1 r.2 hc hrun

/-- A run from a good cursor answers what the triple promises, and ends at a good cursor. -/
theorem run_of_triple {p : Parse α} {Q : α → Prop}
    (h : ⦃fun c => ⌜c.Good⌝⦄ p ⦃⇓? r => ⌜Q r⌝ ∧ fun c => ⌜c.Good⌝⦄) {c c' : Cursor} {a : α}
    (hc : c.Good) (hrun : p.run c = .ok (a, c')) : Q a ∧ c'.Good := by
  have hwp := h c hc
  simp only [wp, PredTrans.apply_pushArg] at hwp
  rw [hrun] at hwp
  exact hwp

theorem good_of_triple {p : Parse α}
    (h : ⦃fun c => ⌜c.Good⌝⦄ p ⦃⇓? _ c => ⌜c.Good⌝⦄) {c c' : Cursor} {a : α}
    (hc : c.Good) (hrun : p.run c = .ok (a, c')) : c'.Good := by
  have hwp := h c hc
  simp only [wp, PredTrans.apply_pushArg] at hwp
  rw [hrun] at hwp
  exact hwp

theorem triple_iff_run {p : Parse α} {Q : α → Prop} :
    ⦃fun c => ⌜c.Good⌝⦄ p ⦃⇓? r => ⌜Q r⌝ ∧ fun c => ⌜c.Good⌝⦄ ↔
      ∀ c a c', c.Good → p.run c = .ok (a, c') → Q a ∧ c'.Good :=
  ⟨fun h _ _ _ hc hrun => run_of_triple h hc hrun, triple_of_run⟩

theorem good_triple_iff_run {p : Parse α} :
    ⦃fun c => ⌜c.Good⌝⦄ p ⦃⇓? _ c => ⌜c.Good⌝⦄ ↔
      ∀ c a c', c.Good → p.run c = .ok (a, c') → c'.Good := by
  refine ⟨fun h _ _ _ hc hrun => good_of_triple h hc hrun, fun h c hc => ?_⟩
  simp only [wp, PredTrans.apply_pushArg]
  cases hrun : p.run c with
  | error e => trivial
  | ok r => exact h c r.1 r.2 hc hrun

/-- A parse that keeps its cursor good and answers anything satisfies the triple that promises
nothing of the answer. -/
theorem triple_true_of_good {p : Parse α} (h : ⦃fun c => ⌜c.Good⌝⦄ p ⦃⇓? _ c => ⌜c.Good⌝⦄) :
    ⦃fun c => ⌜c.Good⌝⦄ p ⦃⇓? _ => ⌜True⌝ ∧ fun c => ⌜c.Good⌝⦄ :=
  triple_iff_run.2 fun _ _ _ hc hrun => ⟨trivial, good_of_triple h hc hrun⟩

theorem good_of_triple_of {p : Parse α} {Q : α → Prop}
    (h : ⦃fun c => ⌜c.Good⌝⦄ p ⦃⇓? r => ⌜Q r⌝ ∧ fun c => ⌜c.Good⌝⦄) :
    ⦃fun c => ⌜c.Good⌝⦄ p ⦃⇓? _ c => ⌜c.Good⌝⦄ :=
  good_triple_iff_run.2 fun _ _ _ hc hrun => (run_of_triple h hc hrun).2

/-- A parse that fails from every cursor satisfies every triple. -/
theorem triple_of_fails {p : Parse α} (h : ∀ c, ∃ e, p.run c = .error e) :
    ⦃fun _ => ⌜True⌝⦄ p ⦃⇓? _ _ => ⌜False⌝⦄ := by
  intro c _
  obtain ⟨e, he⟩ := h c
  simp only [wp, PredTrans.apply_pushArg]
  rw [he]
  trivial

/-! ### Failing -/

/-- A thrown error answers nothing. -/
@[spec high] theorem throw_spec (e : SyntaxError) :
    ⦃fun _ => ⌜True⌝⦄ (throw e : Parse α) ⦃⇓? _ _ => ⌜False⌝⦄ :=
  triple_of_fails fun _ => ⟨e, rfl⟩

@[spec] theorem failAt_spec (p : Pos) (msg : String) :
    ⦃fun _ => ⌜True⌝⦄ failAt (α := α) p msg ⦃⇓? _ _ => ⌜False⌝⦄ :=
  triple_of_fails fun _ => ⟨_, rfl⟩

theorem failHere_run_eq_error (msg : String) (c : Cursor) :
    ∃ e, (failHere (α := α) msg).run c = .error e := by
  obtain ⟨rest, _, _⟩ := c
  cases rest <;> exact ⟨_, rfl⟩

@[spec] theorem failHere_spec (msg : String) :
    ⦃fun _ => ⌜True⌝⦄ failHere (α := α) msg ⦃⇓? _ _ => ⌜False⌝⦄ :=
  triple_of_fails (failHere_run_eq_error msg)

@[spec] theorem failHereIn_spec (ts : TokenStream) (msg : String) :
    ⦃fun _ => ⌜True⌝⦄ failHereIn (α := α) ts msg ⦃⇓? _ _ => ⌜False⌝⦄ :=
  triple_of_fails fun _ => by
    cases ts <;> exact ⟨_, rfl⟩

@[spec] theorem expectedOneOfIn_spec (ts : TokenStream) (comparisons : List String) :
    ⦃fun _ => ⌜True⌝⦄ expectedOneOfIn (α := α) ts comparisons ⦃⇓? _ _ => ⌜False⌝⦄ := by
  mvcgen [expectedOneOfIn]

@[spec] theorem expectedOneOf_spec (comparisons : List String) :
    ⦃fun _ => ⌜True⌝⦄ expectedOneOf (α := α) comparisons ⦃⇓? _ _ => ⌜False⌝⦄ := by
  mvcgen [expectedOneOf]

/-! ### Looking ahead -/

@[spec] theorem remaining_spec :
    ⦃fun c => ⌜c.Good⌝⦄ remaining ⦃⇓? _ c => ⌜c.Good⌝⦄ := by
  mvcgen [remaining]

@[spec] theorem peekWith_spec (f : TokenStream → Bool) :
    ⦃fun c => ⌜c.Good⌝⦄ peekWith f ⦃⇓? _ c => ⌜c.Good⌝⦄ := by
  mvcgen [peekWith]

@[spec] theorem peek2With_spec (f : TokenStream → Bool) :
    ⦃fun c => ⌜c.Good⌝⦄ peek2With f ⦃⇓? _ c => ⌜c.Good⌝⦄ := by
  mvcgen [peek2With]

@[spec] theorem peek3With_spec (f : TokenStream → Bool) :
    ⦃fun c => ⌜c.Good⌝⦄ peek3With f ⦃⇓? _ c => ⌜c.Good⌝⦄ := by
  mvcgen [peek3With]

@[spec] theorem peekOp_spec (s : String) : ⦃fun c => ⌜c.Good⌝⦄ peekOp s ⦃⇓? _ c => ⌜c.Good⌝⦄ := by
  mvcgen [peekOp]

@[spec] theorem peek2Op_spec (s : String) :
    ⦃fun c => ⌜c.Good⌝⦄ peek2Op s ⦃⇓? _ c => ⌜c.Good⌝⦄ := by
  mvcgen [peek2Op]

@[spec] theorem peek3Op_spec (s : String) :
    ⦃fun c => ⌜c.Good⌝⦄ peek3Op s ⦃⇓? _ c => ⌜c.Good⌝⦄ := by
  mvcgen [peek3Op]

@[spec] theorem peekWord_spec (w : String) :
    ⦃fun c => ⌜c.Good⌝⦄ peekWord w ⦃⇓? _ c => ⌜c.Good⌝⦄ := by
  mvcgen [peekWord]

@[spec] theorem peek2Word_spec (w : String) :
    ⦃fun c => ⌜c.Good⌝⦄ peek2Word w ⦃⇓? _ c => ⌜c.Good⌝⦄ := by
  mvcgen [peek2Word]

@[spec] theorem peek3Word_spec (w : String) :
    ⦃fun c => ⌜c.Good⌝⦄ peek3Word w ⦃⇓? _ c => ⌜c.Good⌝⦄ := by
  mvcgen [peek3Word]

@[spec] theorem peekIdent_spec : ⦃fun c => ⌜c.Good⌝⦄ peekIdent ⦃⇓? _ c => ⌜c.Good⌝⦄ := by
  mvcgen [peekIdent]

@[spec] theorem peekLifetime_spec :
    ⦃fun c => ⌜c.Good⌝⦄ peekLifetime ⦃⇓? _ c => ⌜c.Good⌝⦄ := by
  mvcgen [peekLifetime]

@[spec] theorem peekLit_spec : ⦃fun c => ⌜c.Good⌝⦄ peekLit ⦃⇓? _ c => ⌜c.Good⌝⦄ := by
  mvcgen [peekLit]

@[spec] theorem peekGroup_spec (d : Delimiter) :
    ⦃fun c => ⌜c.Good⌝⦄ peekGroup d ⦃⇓? _ c => ⌜c.Good⌝⦄ := by
  mvcgen [peekGroup]

@[spec] theorem peek2Group_spec (d : Delimiter) :
    ⦃fun c => ⌜c.Good⌝⦄ peek2Group d ⦃⇓? _ c => ⌜c.Good⌝⦄ := by
  mvcgen [peek2Group]

@[spec] theorem atEnd_spec : ⦃fun c => ⌜c.Good⌝⦄ atEnd ⦃⇓? _ c => ⌜c.Good⌝⦄ := by
  mvcgen [atEnd]

@[spec] theorem here_spec : ⦃fun c => ⌜c.Good⌝⦄ here ⦃⇓? _ c => ⌜c.Good⌝⦄ := by
  mvcgen [here]

@[spec] theorem readSince_spec (begin : TokenStream) :
    ⦃fun c => ⌜c.Good⌝⦄ readSince begin ⦃⇓? _ c => ⌜c.Good⌝⦄ := by
  mvcgen [readSince]

@[spec] theorem lookahead_spec (p : Parse α) :
    ⦃fun c => ⌜c.Good⌝⦄ lookahead p ⦃⇓? _ c => ⌜c.Good⌝⦄ := by
  mvcgen [lookahead]

@[spec] theorem succeeds_spec (p : Parse α) :
    ⦃fun c => ⌜c.Good⌝⦄ succeeds p ⦃⇓? _ c => ⌜c.Good⌝⦄ := by
  mvcgen [succeeds]

/-! ### Reading tokens -/

@[spec] theorem skip_spec (n : Nat) : ⦃fun c => ⌜c.Good⌝⦄ skip n ⦃⇓? _ c => ⌜c.Good⌝⦄ := by
  mvcgen [skip] with grind [Cursor.Good, TokenStream.IdentsAll.drop]

@[spec] theorem op_spec (s : String) : ⦃fun c => ⌜c.Good⌝⦄ op s ⦃⇓? _ c => ⌜c.Good⌝⦄ := by
  mvcgen [op] with grind

@[spec] theorem opt_spec (s : String) : ⦃fun c => ⌜c.Good⌝⦄ opt s ⦃⇓? _ c => ⌜c.Good⌝⦄ := by
  mvcgen [opt]

@[spec] theorem word_spec (w : String) : ⦃fun c => ⌜c.Good⌝⦄ word w ⦃⇓? _ c => ⌜c.Good⌝⦄ := by
  mvcgen [word] with grind

@[spec] theorem optWord_spec (w : String) :
    ⦃fun c => ⌜c.Good⌝⦄ optWord w ⦃⇓? _ c => ⌜c.Good⌝⦄ := by
  mvcgen [optWord]

/-- An identifier that is no keyword is read off the input, so it is an ASCII identifier. -/
@[spec] theorem ident_spec :
    ⦃fun c => ⌜c.Good⌝⦄ ident ⦃⇓? r => ⌜AsciiIdent r.1 ∧ acceptsAsIdent r.1 = true⌝ ∧
      fun c => ⌜c.Good⌝⦄ := by
  mvcgen [ident] with grind [Cursor.Good.head_ident]

@[spec] theorem anyIdent_spec :
    ⦃fun c => ⌜c.Good⌝⦄ anyIdent ⦃⇓? r => ⌜AsciiIdent r.1⌝ ∧ fun c => ⌜c.Good⌝⦄ := by
  mvcgen [anyIdent] with grind [Cursor.Good.head_ident]

@[spec] theorem lifetime_spec : ⦃fun c => ⌜c.Good⌝⦄ lifetime ⦃⇓? _ c => ⌜c.Good⌝⦄ := by
  mvcgen [lifetime] with grind

@[spec] theorem lit_spec : ⦃fun c => ⌜c.Good⌝⦄ lit ⦃⇓? _ c => ⌜c.Good⌝⦄ := by
  mvcgen [lit] with grind [Cursor.Good, TokenStream.IdentsAll.drop, TokenStream.leadingLit_rest]

@[spec] theorem anyGroup_spec : ⦃fun c => ⌜c.Good⌝⦄ anyGroup ⦃⇓? _ c => ⌜c.Good⌝⦄ := by
  mvcgen [anyGroup] with grind

/-- A parse whose answer is dropped reads what the parse reads. -/
@[spec] theorem discard_spec {x : Parse α}
    (h : ⦃fun c => ⌜c.Good⌝⦄ x ⦃⇓? _ c => ⌜c.Good⌝⦄) :
    ⦃fun c => ⌜c.Good⌝⦄ discard x ⦃⇓? _ c => ⌜c.Good⌝⦄ := by
  have hd : discard x = (fun _ => ()) <$> x := rfl
  rw [hd]
  mvcgen [h]

/-! ### Groups and combinators -/

/-- A group is read as a whole: whatever its contents answer, the cursor moves past it. -/
@[spec] theorem inGroup_spec (d : Delimiter) (p : Parse α) :
    ⦃fun c => ⌜c.Good⌝⦄ inGroup d p ⦃⇓? _ c => ⌜c.Good⌝⦄ := by
  mvcgen [inGroup] with grind [Cursor.Good, Cursor.Good.tail]

/-- A group read whole answers what its contents answer, read from the start of the group. -/
theorem inGroup_run_eq_ok {d : Delimiter} {p : Parse α} {c c' : Cursor} {a : α}
    (h : (inGroup d p).run c = .ok (a, c')) :
    ∃ inner o cl rest c'', c.rest = .group d inner o cl :: rest ∧
      p.run { rest := inner, scope := cl, stray := c.stray } = .ok (a, c'') := by
  unfold inGroup at h
  simp only [StateT.run, bind, StateT.bind, get, getThe, MonadStateOf.get, StateT.get, pure,
    Except.pure, Except.bind] at h
  obtain ⟨e, he⟩ := failHere_run_eq_error (α := α) d.expectedMessage c
  rcases hrest : c.rest with _ | ⟨_ | _ | _ | _, rest⟩ <;> simp only [hrest] at h
  case cons.group d' inner o cl =>
    by_cases hd : (d' == d) = true
    · simp only [hd, if_true] at h
      rcases hp : p { rest := inner, scope := cl, stray := c.stray } with e' | ⟨a', c''⟩ <;>
        simp only [hp] at h
      · cases h
      · simp only [set, StateT.set, StateT.pure, StateT.bind, bind, Except.bind, pure, Except.pure,
          Except.ok.injEq, Prod.mk.injEq] at h
        obtain ⟨rfl, -⟩ := h
        simp only [beq_iff_eq] at hd
        subst hd
        exact ⟨inner, o, cl, rest, c'', rfl, hp⟩
    · simp only [hd, Bool.false_eq_true, if_false] at h
      exact absurd (h.symm.trans he) (by simp)
  all_goals exact absurd (h.symm.trans he) (by simp)

theorem inGroup_spec_of {d : Delimiter} {p : Parse α} {Q : α → Prop}
    (h : ⦃fun c => ⌜c.Good⌝⦄ p ⦃⇓? r => ⌜Q r⌝ ∧ fun c => ⌜c.Good⌝⦄) :
    ⦃fun c => ⌜c.Good⌝⦄ inGroup d p ⦃⇓? r => ⌜Q r⌝ ∧ fun c => ⌜c.Good⌝⦄ := by
  apply triple_of_run
  intro c a c' hc hrun
  obtain ⟨inner, o, cl, rest, c'', hc', hp⟩ := inGroup_run_eq_ok hrun
  exact ⟨(run_of_triple h (Cursor.good_mk _ _ _ |>.2 (hc.inner hc')) hp).1,
    good_of_triple (inGroup_spec d p) hc hrun⟩

/-- An attempt answers nothing and stays, or answers what the parse answers where it ends. -/
theorem attempt_run_eq_ok {p : Parse α} {c c' : Cursor} {o : Option α}
    (h : (attempt p).run c = .ok (o, c')) :
    (o = none ∧ c' = c) ∨ ∃ a, o = some a ∧ p.run c = .ok (a, c') := by
  unfold attempt at h
  simp only [StateT.run, bind, StateT.bind, get, getThe, MonadStateOf.get, StateT.get, pure,
    Except.pure, Except.bind] at h
  rcases hp : p c with e | ⟨a, c''⟩ <;> simp only [hp] at h
  · simp only [StateT.pure, pure, Except.pure, Except.ok.injEq, Prod.mk.injEq] at h
    exact .inl ⟨h.1.symm, h.2.symm⟩
  · simp only [set, StateT.set, StateT.pure, StateT.bind, bind, Except.bind, pure, Except.pure,
      Except.ok.injEq, Prod.mk.injEq] at h
    obtain ⟨rfl, rfl⟩ := h
    exact .inr ⟨a, rfl, hp⟩

theorem attempt_spec_of {p : Parse α} {Q : α → Prop}
    (h : ⦃fun c => ⌜c.Good⌝⦄ p ⦃⇓? r => ⌜Q r⌝ ∧ fun c => ⌜c.Good⌝⦄) :
    ⦃fun c => ⌜c.Good⌝⦄ attempt p ⦃⇓? r => ⌜∀ a, r = some a → Q a⌝ ∧
      fun c => ⌜c.Good⌝⦄ := by
  refine triple_iff_run.2 fun c o c' hc hrun => ?_
  rcases attempt_run_eq_ok hrun with ⟨rfl, rfl⟩ | ⟨a, rfl, hp⟩
  · exact ⟨by simp, hc⟩
  · obtain ⟨hq, hc'⟩ := run_of_triple h hc hp
    exact ⟨by simpa using hq, hc'⟩

@[spec] theorem attempt_spec {p : Parse α}
    (h : ⦃fun c => ⌜c.Good⌝⦄ p ⦃⇓? _ c => ⌜c.Good⌝⦄) :
    ⦃fun c => ⌜c.Good⌝⦄ attempt p ⦃⇓? _ c => ⌜c.Good⌝⦄ :=
  good_of_triple_of (attempt_spec_of (triple_true_of_good h))

/-! ### Repetitions -/

theorem many_go_spec_of {step : Parse (Option α)} {Q : α → Prop}
    (h : ⦃fun c => ⌜c.Good⌝⦄ step ⦃⇓? r => ⌜∀ a, r = some a → Q a⌝ ∧
      fun c => ⌜c.Good⌝⦄) :
    ∀ n acc, (∀ a ∈ acc, Q a) →
      ⦃fun c => ⌜c.Good⌝⦄ many.go step n acc ⦃⇓? r => ⌜∀ a ∈ r, Q a⌝ ∧
        fun c => ⌜c.Good⌝⦄ := by
  intro n
  -- on the rounds left; each round adds its answer to the answers kept
  induction n with
  | zero =>
    intro acc hacc
    (mvcgen [many.go] with grind)
  | succ n ih =>
    intro acc hacc
    (mvcgen [many.go, h, ih] with grind)

/-- The answers of a repetition are answers of its step. -/
theorem many_spec_of {step : Parse (Option α)} {Q : α → Prop}
    (h : ⦃fun c => ⌜c.Good⌝⦄ step ⦃⇓? r => ⌜∀ a, r = some a → Q a⌝ ∧
      fun c => ⌜c.Good⌝⦄) :
    ⦃fun c => ⌜c.Good⌝⦄ many step ⦃⇓? r => ⌜∀ a ∈ r, Q a⌝ ∧ fun c => ⌜c.Good⌝⦄ := by
  have hgo := many_go_spec_of h
  mvcgen [many, hgo] with grind

@[spec] theorem many_spec {step : Parse (Option α)}
    (h : ⦃fun c => ⌜c.Good⌝⦄ step ⦃⇓? _ c => ⌜c.Good⌝⦄) :
    ⦃fun c => ⌜c.Good⌝⦄ many step ⦃⇓? _ c => ⌜c.Good⌝⦄ := by
  have hstep : ⦃fun c => ⌜c.Good⌝⦄ step ⦃⇓? r => ⌜∀ a, r = some a → True⌝ ∧
      fun c => ⌜c.Good⌝⦄ := by
    mvcgen [h] with grind
  exact good_of_triple_of (many_spec_of hstep)

theorem chain_go_spec_of {step : Parse (Option (α × Bool))} {Q : α → Prop}
    (h : ⦃fun c => ⌜c.Good⌝⦄ step ⦃⇓? r => ⌜∀ a b, r = some (a, b) → Q a⌝ ∧
      fun c => ⌜c.Good⌝⦄) :
    ∀ n acc, (∀ a ∈ acc, Q a) →
      ⦃fun c => ⌜c.Good⌝⦄ chain.go step n acc ⦃⇓? r => ⌜∀ a ∈ r, Q a⌝ ∧
        fun c => ⌜c.Good⌝⦄ := by
  intro n
  induction n with
  | zero =>
    intro acc hacc
    (mvcgen [chain.go] with grind)
  | succ n ih =>
    intro acc hacc
    (mvcgen [chain.go, h, ih] with grind)

theorem chain_spec_of {step : Parse (Option (α × Bool))} {Q : α → Prop}
    (h : ⦃fun c => ⌜c.Good⌝⦄ step ⦃⇓? r => ⌜∀ a b, r = some (a, b) → Q a⌝ ∧
      fun c => ⌜c.Good⌝⦄) :
    ⦃fun c => ⌜c.Good⌝⦄ chain step ⦃⇓? r => ⌜∀ a ∈ r, Q a⌝ ∧ fun c => ⌜c.Good⌝⦄ := by
  have hgo := chain_go_spec_of h
  mvcgen [chain, hgo] with grind

@[spec] theorem chain_spec {step : Parse (Option (α × Bool))}
    (h : ⦃fun c => ⌜c.Good⌝⦄ step ⦃⇓? _ c => ⌜c.Good⌝⦄) :
    ⦃fun c => ⌜c.Good⌝⦄ chain step ⦃⇓? _ c => ⌜c.Good⌝⦄ := by
  have hstep : ⦃fun c => ⌜c.Good⌝⦄ step ⦃⇓? r => ⌜∀ a b, r = some (a, b) → True⌝ ∧
      fun c => ⌜c.Good⌝⦄ := by
    mvcgen [h] with grind
  exact good_of_triple_of (chain_spec_of hstep)

theorem commaItem_spec_of {item : Parse α} {Q : α → Prop}
    (h : ⦃fun c => ⌜c.Good⌝⦄ item ⦃⇓? r => ⌜Q r⌝ ∧ fun c => ⌜c.Good⌝⦄) :
    ⦃fun c => ⌜c.Good⌝⦄ commaItem item ⦃⇓? r => ⌜∀ a b, r = some (a, b) → Q a⌝ ∧
      fun c => ⌜c.Good⌝⦄ := by
  mvcgen [commaItem, h] with grind

@[spec] theorem commaItem_spec {item : Parse α}
    (h : ⦃fun c => ⌜c.Good⌝⦄ item ⦃⇓? _ c => ⌜c.Good⌝⦄) :
    ⦃fun c => ⌜c.Good⌝⦄ commaItem item ⦃⇓? _ c => ⌜c.Good⌝⦄ :=
  good_of_triple_of (commaItem_spec_of (triple_true_of_good h))

theorem commaList_spec_of {item : Parse α} {Q : α → Prop}
    (h : ⦃fun c => ⌜c.Good⌝⦄ item ⦃⇓? r => ⌜Q r⌝ ∧ fun c => ⌜c.Good⌝⦄) :
    ⦃fun c => ⌜c.Good⌝⦄ commaList item ⦃⇓? r => ⌜∀ a ∈ r, Q a⌝ ∧ fun c => ⌜c.Good⌝⦄ :=
  chain_spec_of (commaItem_spec_of h)

@[spec] theorem commaList_spec {item : Parse α}
    (h : ⦃fun c => ⌜c.Good⌝⦄ item ⦃⇓? _ c => ⌜c.Good⌝⦄) :
    ⦃fun c => ⌜c.Good⌝⦄ commaList item ⦃⇓? _ c => ⌜c.Good⌝⦄ :=
  good_of_triple_of (commaList_spec_of (triple_true_of_good h))

end Parse

end Augment.Rust
