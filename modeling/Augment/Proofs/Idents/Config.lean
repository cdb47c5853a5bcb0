import Augment.Proofs.Idents.Spelling
import Augment.Config

/-!
# Configured names are identifiers

A configuration that `Config.parse` accepts names its marker crate and its accessor by plain
identifiers, dashes in a crate name read as underscores. Both are then written by
`Ident.ofName` as they are. The marker crate's name is trimmed before its dashes are replaced,
and trimming changes nothing: every character of an accepted crate name is a dash, an
underscore, a letter or a digit, and none of them is a blank.

* `CharTable.searchCode_sound`: the binary search of a table finds only code points inside one
  of its ranges; `CharTable.not_contains_of_apart`: tables whose ranges are apart share no
  character.
* `isWhiteSpace_of_isAlphanumeric`: no letter or digit is a blank.
* `mem_replaceAll`: replacing a pattern keeps every character that is not in it.
* `writable_of_isPlainIdent`: a plain identifier is written by `Ident.ofName`.
* `Config.options_writable`: the accessor and the marker crate of an accepted configuration are
  written by `Ident.ofName`.
-/

namespace Augment.Text

namespace CharTable

/-- The binary search finds only code points inside one of the table's ranges. -/
theorem searchCode_sound {t : CharTable} {n lo hi : Nat} (h : t.searchCode n lo hi = true) :
    ∃ r ∈ t.ranges.toList, r.1 ≤ n ∧ n ≤ r.2 := by
  -- on the halving steps of the search
  fun_induction CharTable.searchCode t n lo hi with
  | case1 lo hi _ mid a b _ _ ih => exact ih h
  | case2 lo hi _ mid a b _ _ _ ih => exact ih h
  | case3 lo hi _ mid a b hget hlo hhi =>
    exact ⟨(a, b), Array.mem_toList_iff.2 (Array.mem_of_getElem? hget), by omega, by omega⟩
  | case4 => cases h
  | case5 => cases h

/-- Whether every range of one table lies wholly before or after every range of another. -/
def Apart (t t' : CharTable) : Bool :=
  t.ranges.toList.all fun a => t'.ranges.toList.all fun b => decide (a.2 < b.1) || decide (b.2 < a.1)

/-- Tables whose ranges are apart share no character. -/
theorem not_contains_of_apart {t t' : CharTable} (h : t.Apart t' = true) {c : Char}
    (hc : t.contains c = true) : t'.contains c = false := by
  rw [Bool.eq_false_iff]
  intro hc'
  obtain ⟨a, ha, ha1, ha2⟩ := searchCode_sound hc
  obtain ⟨b, hb, hb1, hb2⟩ := searchCode_sound hc'
  have hapart := List.all_eq_true.1 (List.all_eq_true.1 h a ha) b hb
  simp only [Bool.or_eq_true, decide_eq_true_eq] at hapart
  omega

end CharTable

theorem alphabetic_apart_whiteSpace : alphabeticTable.Apart whiteSpaceTable = true := by
  decide +kernel

theorem numeric_apart_whiteSpace : numericTable.Apart whiteSpaceTable = true := by
  decide +kernel

/-- **No letter or digit is a blank.** In ASCII the letters and digits are apart from the space
and the controls from tab to carriage return; beyond it the tables of `Alphabetic` and of the
numeric categories are apart from that of `White_Space`. -/
theorem isWhiteSpace_of_isAlphanumeric {c : Char} (h : isAlphanumeric c = true) :
    isWhiteSpace c = false := by
  unfold isAlphanumeric isAlphabetic isNumeric at h
  unfold isWhiteSpace
  by_cases hascii : c.toNat < 128
  · -- ASCII: letters and digits lie from `0` up, blanks from the space down
    simp only [hascii, if_true] at h ⊢
    have hletter : 48 ≤ c.toNat := by
      simp only [Char.isAlpha, Char.isUpper, Char.isLower, Char.isDigit, Bool.or_eq_true,
        Bool.and_eq_true, decide_eq_true_eq, UInt32.le_iff_toNat_le] at h
      have hval : c.toNat = c.val.toNat := rfl
      simp at h
      omega
    rw [Bool.eq_false_iff]
    simp only [ne_eq, Bool.or_eq_true, beq_iff_eq, Bool.and_eq_true, decide_eq_true_eq]
    rintro (rfl | hcontrol)
    · simp at hletter
    · omega
  · simp only [hascii, if_false] at h ⊢
    rcases Bool.or_eq_true_iff.1 h with h | h
    · exact CharTable.not_contains_of_apart alphabetic_apart_whiteSpace h
    · exact CharTable.not_contains_of_apart numeric_apart_whiteSpace h

/-! ### Trimming and replacing -/

/-- A text with no blank is its own trim. -/
theorem trimBlank_of_forall {s : List Char} (h : ∀ c ∈ s, isWhiteSpace c = false) :
    trimBlank s = s := by
  have hdrop : ∀ l : List Char, (∀ c ∈ l, isWhiteSpace c = false) →
      l.dropWhile isWhiteSpace = l := by
    intro l hl
    cases l with
    | nil => rfl
    | cons c rest => simp [hl c List.mem_cons_self]
  unfold trimBlank
  rw [hdrop s h, hdrop s.reverse (fun c hc => h c (List.mem_reverse.1 hc)), List.reverse_reverse]

/-- The parts around the leftmost occurrence of a separator make up the text with it. -/
theorem splitFirst?_eq_some {sep s a b : List Char} (h : splitFirst? sep s = some (a, b)) :
    s = a ++ sep ++ b := by
  -- on the text, as `splitFirst?` walks it
  induction s generalizing a b with
  | nil =>
    simp only [splitFirst?] at h
    split at h
    · rename_i hsep
      cases h
      simp_all
    · cases h
  | cons c rest ih =>
    simp only [splitFirst?] at h
    split at h
    · rename_i after hs
      simp only [stripPrefix?] at hs
      split at hs
      · rename_i hp
        cases h
        cases hs
        obtain ⟨t, ht⟩ := List.isPrefixOf_iff_prefix.1 hp
        rw [← ht, List.drop_left]
        simp
      · cases hs
    · obtain ⟨⟨a', b'⟩, h', he⟩ := Option.map_eq_some_iff.1 h
      cases he
      rw [ih h']
      simp

/-- A character outside the separator lies in one of the pieces between its occurrences. -/
theorem mem_splitFrom {sep : List Char} (hsep : sep ≠ []) {x : Char} {s : List Char} (hx : x ∈ s)
    (hxs : x ∉ sep) : ∃ p ∈ splitFrom sep hsep s, x ∈ p := by
  -- on the pieces, one occurrence of the separator at a time
  fun_induction splitFrom sep hsep s with
  | case1 s a b hsplit _ ih =>
    rw [splitFirst?_eq_some hsplit] at hx
    rcases List.mem_append.1 hx with hx | hx
    · rcases List.mem_append.1 hx with hx | hx
      · exact ⟨a, List.mem_cons_self, hx⟩
      · exact absurd hx hxs
    · obtain ⟨p, hp, hxp⟩ := ih hx
      exact ⟨p, List.mem_cons_of_mem _ hp, hxp⟩
  | case2 s _ => exact ⟨s, List.mem_singleton_self _, hx⟩

/-- A character of one of the pieces is a character of the pieces joined. -/
theorem mem_intercalate {rep : List Char} {ps : List (List Char)} {p : List Char} (hp : p ∈ ps)
    {x : Char} (hx : x ∈ p) : x ∈ rep.intercalate ps := by
  -- on the pieces, the first one and those after it
  induction ps with
  | nil => cases hp
  | cons q rest ih =>
    cases rest with
    | nil =>
      rw [List.mem_singleton.1 hp] at hx
      rwa [List.intercalate_singleton]
    | cons q' rest' =>
      rw [List.intercalate_cons_cons]
      rcases List.mem_cons.1 hp with rfl | hp
      · exact List.mem_append_left _ (List.mem_append_left _ hx)
      · exact List.mem_append_right _ (ih hp)

/-- **Replacing a pattern keeps every character that is not in it.** -/
theorem mem_replaceAll {pat rep s : List Char} {x : Char} (hx : x ∈ s) (hxp : x ∉ pat) :
    x ∈ replaceAll pat rep s := by
  unfold replaceAll
  split
  · exact hx
  · rename_i hne
    have hpat : pat ≠ [] := by simpa using hne
    unfold splitOnChars
    rw [dif_neg hpat]
    obtain ⟨p, hp, hxp'⟩ := mem_splitFrom hpat hx hxp
    exact mem_intercalate hp hxp'

end Augment.Text

namespace Augment

open Augment.Rust Augment.Text

/-! ### Accepted configurations -/

/-- **A plain identifier is written by `Ident.ofName`** as the one identifier token it lexes
to: it holds no `#`, so there is no `r#` to drop. -/
theorem writable_of_isPlainIdent {s : String} (h : Config.isPlainIdent s = true) :
    Ident.Writable s := by
  simp only [Config.isPlainIdent, Bool.and_eq_true, List.all_eq_true] at h
  obtain ⟨⟨-, hall⟩, hlex⟩ := h
  have hbare : dropPrefixIfAny s "r#" = s := by
    simp only [dropPrefixIfAny, dropPrefix?, stripPrefix?]
    split
    · rename_i hp
      have hhash : '#' ∈ s.toList :=
        (List.isPrefixOf_iff_prefix.1 hp).subset (by decide)
      exact absurd (hall '#' hhash) (by decide)
    · rfl
  -- the text lexes to one identifier `t`, which is accepted as it is; the lexing is generalized
  -- first so that splitting `hlex` leaves the goal's own `match` alone
  obtain ⟨t, p, hl, hacc⟩ : ∃ t p, lex s = .ok [.ident t p] ∧ acceptsAsIdent t = true := by
    revert hlex
    generalize lex s = x
    intro hlex
    split at hlex
    · exact ⟨_, _, rfl, hlex⟩
    · cases hlex
  unfold Ident.Writable Ident.ofName
  simp only [hbare]
  rw [hl]
  exact ⟨TokenTree.mkIdent t, by simp only [hacc, if_true]⟩

/-- A crate name that reads as a plain identifier with its dashes as underscores has no blank,
so trimming it changes nothing. -/
theorem ofCrate_of_isPlainIdent {v : String}
    (h : Config.isPlainIdent (replaceText v "-" "_") = true) :
    (MarkerSet.ofCrate v).crateName = replaceText v "-" "_" := by
  simp only [Config.isPlainIdent, Bool.and_eq_true, List.all_eq_true] at h
  obtain ⟨⟨-, hall⟩, -⟩ := h
  -- a character of the name is a dash, or is kept by the replacement
  have hnoBlank : ∀ c ∈ v.toList, isWhiteSpace c = false := by
    intro c hc
    by_cases hdash : c = '-'
    · subst hdash
      decide
    have hkept : c ∈ (replaceText v "-" "_").toList := by
      simp only [replaceText, String.toList_ofList]
      exact mem_replaceAll hc (by simpa using hdash)
    rcases Bool.or_eq_true_iff.1 (hall c hkept) with halnum | hunder
    · exact isWhiteSpace_of_isAlphanumeric halnum
    · rw [beq_iff_eq.1 hunder]
      decide
  have htrim : trimText v = v := by
    simp only [trimText, trimBlank_of_forall hnoBlank, String.ofList_toList]
  simp only [MarkerSet.ofCrate, htrim]

/-- A configuration's checks pass for every configuration `Config.parse` accepts. -/
theorem Config.validate_of_parse {path text : String} {c : Config}
    (h : Config.parse path text = .ok c) : c.validate = .ok () := by
  simp only [Config.parse, bind, Except.bind] at h
  split at h
  · cases h
  · split at h
    · cases h
    · split at h
      · cases h
      · rename_i doc hdoc c' hc' u hval
        simp only [pure, Except.pure, Except.ok.injEq] at h
        subst h
        exact hval

/-- The names that options give every fragment, the marker crate and the accessor, are written by
`Ident.ofName`. -/
structure Options.Writable (opts : Options) : Prop where
  crateName : Ident.Writable opts.markers.crateName
  accessor : Ident.Writable opts.singleton.accessor

/-- **The names of an accepted configuration are identifiers.** The accessor and the marker
crate's name of a configuration whose checks pass are written by `Ident.ofName`, and so are the
defaults, `instance` and `graft`. -/
theorem Config.options_writable {c : Config} (h : c.validate = .ok ()) : c.options.Writable := by
  simp only [Config.validate, bind, Except.bind] at h
  split at h
  · cases h
  · rename_i hcrate
    split at h
    · cases h
    · constructor
      · -- the marker crate, configured or the default
        simp only [Config.options]
        cases hm : c.markerCrate with
        | none =>
          rw [show (MarkerSet.ofCrate ((none : Option String).getD defaultMarkerCrate)).crateName =
            "graft" by decide +kernel]
          exact Ident.writable_of_isSpelled (by decide) (by decide)
        | some v =>
          simp only [Config.checkIdent, hm, if_true] at hcrate
          split at hcrate
          · rename_i hplain
            simp only [Option.getD_some, ofCrate_of_isPlainIdent hplain]
            exact writable_of_isPlainIdent hplain
          · cases hcrate
      · -- the accessor, configured or the default
        simp only [Config.options]
        cases ha : c.singleton.accessor with
        | none => exact Ident.writable_of_isSpelled (by decide) (by decide)
        | some v =>
          simp only [Config.checkIdent, ha, Bool.false_eq_true, if_false] at h
          split at h
          · rename_i hplain
            exact writable_of_isPlainIdent hplain
          · cases h

end Augment
