import Augment.Proofs.Idents.Spelling
import Mathlib.Data.List.Basic

/-!
# The identifier tokens a lexer produces

The lexer reads a text in one pass, keeping the tokens of the innermost open group read so far and
the groups still open. Each step of the pass is one of four moves (`LexMove`): it pushes the
tokens of a doc comment, pushes one leaf token, opens a group, or closes the innermost group
into a group token.

* `TokenStream.identTexts`: the texts of the identifier tokens of a stream, inside groups too.
* `identText_of_identLen`: an identifier token is read off exactly an `IdentText`, plain or raw.
* `lexFrom_eq_ok`: a finished pass ends with no group open, or makes one move and goes on with a
  shorter text.
* `LexMove.identTexts`: no move brings in an identifier text that is not an `IdentText`;
  `lex_identTexts`: so every identifier token of a lexed text is one.
-/

namespace Augment.Rust

open Augment.Text

/-! ### Identifier texts of a stream -/

mutual

/-- The texts of the identifier tokens of a token tree, inside groups too, in order. -/
def TokenTree.identTexts : TokenTree → List String
  | .group _ inner _ _ => TokenStream.identTexts inner
  | .ident s _ => [s]
  | _ => []

/-- The texts of the identifier tokens of a token stream, inside groups too, in order. -/
def TokenStream.identTexts : TokenStream → List String
  | [] => []
  | t :: rest => t.identTexts ++ TokenStream.identTexts rest

end

namespace TokenStream

@[simp] theorem identTexts_nil : identTexts [] = [] := by
  simp [identTexts]

@[simp] theorem identTexts_cons (t : TokenTree) (ts : TokenStream) :
    identTexts (t :: ts) = t.identTexts ++ identTexts ts := by
  simp [identTexts]

@[simp] theorem identTexts_append (ts ts' : TokenStream) :
    identTexts (ts ++ ts') = identTexts ts ++ identTexts ts' := by
  induction ts with
  | nil => simp
  | cons t rest ih => simp [ih]

theorem mem_identTexts {x : String} {ts : TokenStream} :
    x ∈ identTexts ts ↔ ∃ t ∈ ts, x ∈ t.identTexts := by
  induction ts with
  | nil => simp
  | cons t rest ih => simp [ih]

/-- Every identifier token of the stream, inside groups too, has a text satisfying `P`. -/
def IdentsAll (P : String → Prop) (ts : TokenStream) : Prop :=
  ∀ x ∈ identTexts ts, P x

variable {P : String → Prop}

theorem identsAll_iff {ts : TokenStream} :
    IdentsAll P ts ↔ ∀ t ∈ ts, ∀ x ∈ t.identTexts, P x := by
  simp only [IdentsAll, mem_identTexts]
  grind

@[simp] theorem identsAll_nil : IdentsAll P [] := by
  simp [IdentsAll]

@[simp] theorem identsAll_cons {t : TokenTree} {ts : TokenStream} :
    IdentsAll P (t :: ts) ↔ (∀ x ∈ t.identTexts, P x) ∧ IdentsAll P ts := by
  simp [IdentsAll, or_imp, forall_and]

@[simp] theorem identsAll_append {ts ts' : TokenStream} :
    IdentsAll P (ts ++ ts') ↔ IdentsAll P ts ∧ IdentsAll P ts' := by
  simp [IdentsAll, or_imp, forall_and]

@[simp] theorem identsAll_reverse {ts : TokenStream} :
    IdentsAll P ts.reverse ↔ IdentsAll P ts := by
  simp [identsAll_iff]

theorem IdentsAll.drop {ts : TokenStream} (h : IdentsAll P ts) (n : Nat) :
    IdentsAll P (ts.drop n) := by
  rw [identsAll_iff] at h ⊢
  exact fun t ht => h t (List.mem_of_mem_drop ht)

end TokenStream

/-! ### Identifier tokens -/

/-- A plain identifier read off the front is spelled like one. -/
theorem isSpelled_of_identNotRawLen {cs : List Char} {n : Nat} (h : identNotRawLen cs = some n) :
    Ident.isSpelled (String.ofList (cs.take n)) = true := by
  match cs, h with
  | c :: rest, h =>
    simp only [identNotRawLen] at h
    split at h
    · rename_i hc
      cases h
      rw [Ident.isSpelled_iff]
      refine ⟨c, rest.takeWhile isIdentContinue, ?_, hc, fun d hd => ?_⟩
      · simp [Nat.add_comm, (List.prefix_iff_eq_take.1 (List.takeWhile_prefix isIdentContinue)).symm]
      · exact List.all_eq_true.1 List.all_takeWhile d hd
    · cases h

/-- A text that starts with `r#` is `r`, `#` and the rest. -/
theorem eq_of_startsWithText_raw {cs : List Char} (h : startsWithText cs "r#" = true) :
    ∃ rest, cs = 'r' :: '#' :: rest := by
  have hs : "r#".toList = ['r', '#'] := by decide
  simp only [startsWithText, hs] at h
  match cs, h with
  | a :: b :: rest, h =>
    simp only [List.isPrefixOf, Bool.and_eq_true, beq_iff_eq] at h
    obtain ⟨rfl, rfl, -⟩ := h
    exact ⟨rest, rfl⟩
  | [_], h => simp [List.isPrefixOf] at h
  | [], h => simp [List.isPrefixOf] at h

/-- **An identifier token is read off exactly an identifier text**: a plain identifier, or `r#`
before one that may be raw. -/
theorem identText_of_identLen {cs : List Char} {n : Nat} (h : identLen cs = some n) :
    IdentText (String.ofList (cs.take n)) := by
  simp only [identLen] at h
  split at h
  · cases h
  simp only [identAnyLen] at h
  split at h
  · rename_i hraw
    -- the text starts with `r#`, and the word after it may be raw
    obtain ⟨rest, rfl⟩ := eq_of_startsWithText_raw hraw
    split at h
    · rename_i m hm
      split at h
      · cases h
      · rename_i hf
        cases h
        refine .inr ⟨String.ofList (rest.take m), ?_, ?_, ?_⟩
        · simp [String.ext_iff]
        · simpa using isSpelled_of_identNotRawLen hm
        · simpa using hf
    · cases h
  · exact .inl (isSpelled_of_identNotRawLen h)

theorem leafAt_identTexts {cs : List Char} {pos : Pos} {n : Nat} {t : TokenTree}
    (h : leafAt cs pos = some (n, t)) : ∀ x ∈ t.identTexts, IdentText x := by
  unfold leafAt at h
  split at h
  · cases h
    simp [TokenTree.identTexts]
  · split at h
    · cases h
      simp [TokenTree.identTexts]
    · split at h
      · rename_i m hm
        cases h
        simpa [TokenTree.identTexts] using identText_of_identLen hm
      · split at h
        · cases h
          simp [TokenTree.identTexts]
        · cases h

theorem docTokens_identTexts (text : List Char) (inner : Bool) (pos : Pos) :
    TokenStream.IdentsAll IdentText (docTokens text inner pos) := by
  have hdoc : IdentText "doc" := .inl (by decide)
  cases inner <;> simp [docTokens, TokenTree.identTexts, hdoc]

/-! ### The moves of the lexer -/

/-- One move of the lexer on the tokens of the innermost open group and the open groups. -/
inductive LexMove : List TokenTree → List OpenGroup → List TokenTree → List OpenGroup → Prop
  /-- The attribute tokens of a doc comment. -/
  | doc (text : List Char) (inner : Bool) (pos : Pos) (acc : List TokenTree)
      (stack : List OpenGroup) :
      LexMove acc stack ((docTokens text inner pos).reverse ++ acc) stack
  /-- One leaf token read off the front. -/
  | leaf (cs : List Char) (pos : Pos) (n : Nat) (t : TokenTree) (acc : List TokenTree)
      (stack : List OpenGroup) :
      leafAt cs pos = some (n, t) → LexMove acc stack (t :: acc) stack
  /-- A group opens; the tokens so far wait in it. -/
  | openGroup (d : Delimiter) (pos : Pos) (acc : List TokenTree) (stack : List OpenGroup) :
      LexMove acc stack [] (⟨d, pos, acc⟩ :: stack)
  /-- The innermost group closes into one token after the tokens it waited with. -/
  | closeGroup (d : Delimiter) (pos : Pos) (g : OpenGroup) (outer : List OpenGroup)
      (acc : List TokenTree) :
      LexMove acc (g :: outer) (.group d acc.reverse g.openPos pos :: g.outer) outer

/-- A finished pass of the lexer either ends, with no group open, on the tokens read, or makes
one move and goes on with a shorter text. -/
theorem lexFrom_eq_ok {cs : List Char} {pos : Pos} {acc : List TokenTree} {stack : List OpenGroup}
    {ts : TokenStream} (h : lexFrom cs pos acc stack = .ok ts) :
    (stack = [] ∧ ts = acc.reverse) ∨
      ∃ cs' pos' acc' stack', cs'.length < cs.length ∧ LexMove acc stack acc' stack' ∧
        lexFrom cs' pos' acc' stack' = .ok ts := by
  rw [lexFrom.eq_def] at h
  dsimp only at h
  split at h
  · split at h
    · exact .inl ⟨rfl, by cases h; rfl⟩
    · cases h
  · rename_i c more hrest
    have hk : (cs.drop (skipLen cs)).length ≤ cs.length := by simp
    rw [hrest, List.length_cons] at hk
    -- the cases in the order the lexer tries them: a doc comment, an opening delimiter, a
    -- closing one, a leaf
    split at h
    · split at h
      · cases h
      · exact .inr ⟨_, _, _, _, by rw [hrest]; simp; omega, .doc _ _ _ _ _, h⟩
    · split at h
      · exact .inr ⟨_, _, _, _, by omega, .openGroup _ _ _ _, h⟩
      · split at h
        · split at h
          · cases h
          · split at h
            · cases h
            · exact .inr ⟨_, _, _, _, by omega, .closeGroup _ _ _ _ _, h⟩
        · split at h
          · rename_i n t hleaf
            exact .inr ⟨_, _, _, _, by rw [hrest]; simp; omega, .leaf _ _ _ _ _ _ hleaf, h⟩
          · cases h

/-- The tokens of the innermost open group and of every open group have identifier texts only. -/
def LexIdents (acc : List TokenTree) (stack : List OpenGroup) : Prop :=
  TokenStream.IdentsAll IdentText acc ∧ ∀ g ∈ stack, TokenStream.IdentsAll IdentText g.outer

/-- No move of the lexer brings in an identifier that is not an `IdentText`. -/
theorem LexMove.identTexts {acc acc' : List TokenTree} {stack stack' : List OpenGroup}
    (hm : LexMove acc stack acc' stack') (h : LexIdents acc stack) : LexIdents acc' stack' := by
  obtain ⟨hacc, hstack⟩ := h
  cases hm with
  | doc text inner pos _ _ =>
    exact ⟨TokenStream.identsAll_append.2
      ⟨TokenStream.identsAll_reverse.2 (docTokens_identTexts text inner pos), hacc⟩, hstack⟩
  | leaf cs pos n t _ _ hleaf =>
    exact ⟨TokenStream.identsAll_cons.2 ⟨leafAt_identTexts hleaf, hacc⟩, hstack⟩
  | openGroup d pos _ _ =>
    refine ⟨TokenStream.identsAll_nil, fun g hg => ?_⟩
    rcases List.mem_cons.1 hg with rfl | hg
    · exact hacc
    · exact hstack g hg
  | closeGroup d pos g outer _ =>
    -- the group token holds the innermost tokens, and the tokens it waited with come after it
    refine ⟨TokenStream.identsAll_cons.2 ⟨?_, hstack g (by simp)⟩,
      fun g' hg' => hstack g' (List.mem_cons_of_mem g hg')⟩
    simpa [TokenTree.identTexts, TokenStream.IdentsAll] using TokenStream.identsAll_reverse.2 hacc

/-- Every pass of the lexer that starts with identifier texts only finishes with them. -/
theorem lexFrom_identTexts : ∀ (cs : List Char) (pos : Pos) (acc : List TokenTree)
    (stack : List OpenGroup) {ts : TokenStream}, LexIdents acc stack →
    lexFrom cs pos acc stack = .ok ts → TokenStream.IdentsAll IdentText ts := by
  intro cs
  -- on the length of the text left, which every move shortens
  induction h : cs.length using Nat.strongRecOn generalizing cs with
  | ind len ih =>
    intro pos acc stack ts hinv hrun
    rcases lexFrom_eq_ok hrun with ⟨-, rfl⟩ | ⟨cs', pos', acc', stack', hlen, hm, hrun'⟩
    · exact TokenStream.identsAll_reverse.2 hinv.1
    · exact ih cs'.length (h ▸ hlen) cs' rfl pos' acc' stack' (hm.identTexts hinv) hrun'

/-- **Every identifier token of a lexed text is an identifier text**: a plain identifier, or `r#`
before one that may be raw. -/
theorem lex_identTexts {s : String} {ts : TokenStream} (h : lex s = .ok ts) :
    TokenStream.IdentsAll IdentText ts := by
  have hstart : LexIdents [] [] := ⟨TokenStream.identsAll_nil, by simp⟩
  unfold lex at h
  split at h
  · split at h
    · exact lexFrom_identTexts _ _ _ _ hstart h
    · exact lexFrom_identTexts _ _ _ _ hstart h
  · cases h
    exact TokenStream.identsAll_nil

end Augment.Rust
