import Augment.Fragment.Notify
import Mathlib

/-!
# Names that identifiers spell

Generated code names things by identifier tokens, and `Ident.ofName` and `Ident.exact` are where
a name becomes one. Both fail on a text that no identifier spells, and `Ident.raw` also on the
words that cannot be written raw (`self`, `crate`, ...).

* `IdentText`: the texts of identifier tokens, a plain identifier or `r#` before a word that may be
  raw; `Ident.Writable`: the names `Ident.ofName` turns into a token.
* `Ident.writable_of_isSpelled`, `IdentText.writable`: every spelled name and every identifier text
  outside `rawForbidden` is writable, whether it reads as a plain identifier or only raw.
* `Ident.exact_of_isSpelled`: a spelled name is its own exact identifier.
* `isAsciiText_exposedName`, `isAsciiText_getterName`: the case conversions map ASCII names to
  ASCII names.
* `usable_names_writable`: an ASCII exposed name that `isUsable` accepts gives a getter and a setter
  that `Ident.ofName` writes, and event members that `Ident.exact` writes.
-/

namespace Augment.Rust

open Augment.Text

/-- The texts of identifier tokens: a plain identifier, or `r#` before an identifier that may be
written raw. -/
def IdentText (s : String) : Prop :=
  Ident.isSpelled s = true ∨ ∃ t, s = "r#" ++ t ∧ Ident.isSpelled t = true ∧ t ∉ rawForbidden

namespace Ident

/-- A name that `ofName` turns into an identifier token. -/
def Writable (name : String) : Prop :=
  ∃ t, ofName name = .ok t

/-! ### Spelled texts -/

theorem isSpelled_iff {s : String} :
    isSpelled s = true ↔
      ∃ c rest, s.toList = c :: rest ∧ isIdentStart c = true ∧ ∀ d ∈ rest, isIdentContinue d = true := by
  unfold isSpelled
  split
  · rename_i c rest h
    simp [h]
  · rename_i h
    simp [h]

/-- A spelled text goes on with characters that may continue an identifier. -/
theorem isSpelled_append {a b : String} (ha : isSpelled a = true)
    (hb : ∀ c ∈ b.toList, isIdentContinue c = true) : isSpelled (a ++ b) = true := by
  obtain ⟨c, rest, hs, hc, hrest⟩ := isSpelled_iff.1 ha
  refine isSpelled_iff.2 ⟨c, rest ++ b.toList, by simp [hs], hc, ?_⟩
  intro d hd
  rcases List.mem_append.1 hd with hd | hd
  · exact hrest d hd
  · exact hb d hd

/-- An ASCII digit starts no identifier. -/
theorem isIdentStart_digit {c : Char} (hc : '0' ≤ c ∧ c ≤ '9') : isIdentStart c = false := by
  have h48 : 48 ≤ c.toNat := by simpa [Char.le_def, UInt32.le_iff_toNat_le] using hc.1
  have h57 : c.toNat ≤ 57 := by simpa [Char.le_def, UInt32.le_iff_toNat_le] using hc.2
  have hlt : c.toNat < 128 := by omega
  simp only [isIdentStart, isXidStart, hlt, if_true, Char.isAlpha, Char.isUpper, Char.isLower]
  simp [Char.ext_iff, UInt32.ext_iff, UInt32.le_iff_toNat_le]
  omega

theorem isDigits_of_isSpelled {s : String} (h : isSpelled s = true) : isDigits s = false := by
  obtain ⟨c, rest, hs, hc, -⟩ := isSpelled_iff.1 h
  have hnd : ¬('0' ≤ c ∧ c ≤ '9') := fun hd => by
    rw [isIdentStart_digit hd] at hc
    cases hc
  have hfirst : (decide ('0' ≤ c) && decide (c ≤ '9')) = false := by
    rw [Bool.eq_false_iff]
    intro hd
    simp only [Bool.and_eq_true, decide_eq_true_eq] at hd
    exact hnd hd
  simp only [isDigits, hs, List.all_cons, hfirst, Bool.false_and]

theorem check_of_isSpelled {s : String} (h : isSpelled s = true) : check s = .ok () := by
  obtain ⟨c, rest, hs, -, -⟩ := isSpelled_iff.1 h
  have hne : s.isEmpty = false := by
    rw [Bool.eq_false_iff]
    intro he
    rw [String.isEmpty_iff.1 he] at hs
    simp at hs
  simp [check, hne, isDigits_of_isSpelled h, h]

theorem raw_of_isSpelled {s : String} (h : isSpelled s = true) (hf : s ∉ rawForbidden) :
    raw s = .ok (TokenTree.mkIdent ("r#" ++ s)) := by
  simp [raw, check_of_isSpelled h, hf, bind, Except.bind, pure, Except.pure]

/-- A spelled text does not start with `r#`: `#` continues no identifier. -/
theorem dropPrefix?_raw_of_isSpelled {s : String} (h : isSpelled s = true) :
    dropPrefix? s "r#" = none := by
  obtain ⟨c, rest, hs, -, hrest⟩ := isSpelled_iff.1 h
  simp only [dropPrefix?, hs, Option.map_eq_none_iff, stripPrefix?]
  split
  · rename_i hp
    have hhash : ('#' : Char) ∈ rest := by
      have : "r#".toList = ['r', '#'] := by decide
      rw [this] at hp
      cases rest with
      | nil => simp at hp
      | cons d ds =>
        simp only [List.isPrefixOf, Bool.and_eq_true, beq_iff_eq] at hp
        obtain ⟨-, rfl, -⟩ := hp
        simp
    have := hrest '#' hhash
    simp [isIdentContinue, isXidContinue] at this
  · rfl

theorem dropPrefixIfAny_raw_of_isSpelled {s : String} (h : isSpelled s = true) :
    dropPrefixIfAny s "r#" = s := by
  simp [dropPrefixIfAny, dropPrefix?_raw_of_isSpelled h]

theorem exact_of_isSpelled {s : String} (h : isSpelled s = true) :
    exact s = .ok (TokenTree.mkIdent s) := by
  simp [exact, dropPrefix?_raw_of_isSpelled h, check_of_isSpelled h, bind, Except.bind, pure,
    Except.pure]

/-! ### Writable names -/

/-- `ofName` falls back on the raw form of the name without its `r#`, so a name whose raw form
exists is writable whatever the lexer makes of it. -/
theorem writable_of_raw {name : String} {t : TokenTree}
    (h : raw (dropPrefixIfAny name "r#") = .ok t) : Writable name := by
  unfold Writable ofName
  dsimp only
  split
  · split
    · exact ⟨_, rfl⟩
    · exact ⟨t, h⟩
  · exact ⟨t, h⟩

theorem writable_of_isSpelled {s : String} (h : isSpelled s = true) (hf : s ∉ rawForbidden) :
    Writable s :=
  writable_of_raw (by rw [dropPrefixIfAny_raw_of_isSpelled h]; exact raw_of_isSpelled h hf)

end Ident

/-- The text of an identifier token that is not a word barred from raw identifiers is writable. -/
theorem IdentText.writable {s : String} (h : IdentText s) (hf : s ∉ rawForbidden) :
    Ident.Writable s := by
  rcases h with h | ⟨t, rfl, ht, htf⟩
  · exact Ident.writable_of_isSpelled h hf
  · -- the raw text loses its `r#` and is written raw again
    have hdrop : dropPrefixIfAny ("r#" ++ t) "r#" = t := by
      simp [dropPrefixIfAny, dropPrefix?, stripPrefix?]
    exact Ident.writable_of_raw (by rw [hdrop]; exact Ident.raw_of_isSpelled ht htf)

/-- The words barred from raw identifiers are the keywords among them, so an identifier that is
no keyword may always be written. -/
theorem not_mem_rawForbidden_of_acceptsAsIdent {s : String} (h : acceptsAsIdent s = true) :
    s ∉ rawForbidden := by
  intro hs
  simp only [rawForbidden, List.mem_cons, List.not_mem_nil, or_false] at hs
  rcases hs with rfl | rfl | rfl | rfl | rfl <;> simp [acceptsAsIdent, keywords] at h

/-- Every raw-barred word is a word with no use as a member name. -/
theorem not_mem_rawForbidden_of_not_mem_unusable {s : String} (h : s ∉ unusableNames) :
    s ∉ rawForbidden := by
  intro hs
  apply h
  simp only [rawForbidden, List.mem_cons, List.not_mem_nil, or_false] at hs
  rcases hs with rfl | rfl | rfl | rfl | rfl <;> simp [unusableNames]

/-- A raw-barred word with an underscore is the underscore alone. -/
theorem eq_underscore_of_mem_rawForbidden {s : String} (hs : s ∈ rawForbidden)
    (hu : '_' ∈ s.toList) : s = "_" := by
  simp only [rawForbidden, List.mem_cons, List.not_mem_nil, or_false] at hs
  rcases hs with rfl | rfl | rfl | rfl | rfl <;> first | rfl | simp at hu

end Augment.Rust

namespace Augment.Text

/-! ### ASCII names -/

/-- Whether every character of a text is ASCII. -/
def isAsciiText (s : String) : Bool :=
  s.toList.all Char.isAscii

theorem isAsciiText_iff {s : String} : isAsciiText s = true ↔ ∀ c ∈ s.toList, c.isAscii = true := by
  simp [isAsciiText]

theorem isAscii_toLower {c : Char} (h : c.isAscii = true) : c.toLower.isAscii = true := by
  unfold Char.toLower
  split
  · rename_i hc
    have h32 : ('a'.val - 'A'.val).toNat = 32 := by decide
    have h90 : 'Z'.val.toNat = 90 := by decide
    simp only [Char.isAscii, Char.toNat, decide_eq_true_eq, UInt32.toNat_add, h32] at h ⊢
    simp only [UInt32.le_iff_toNat_le, h90] at hc
    omega
  · exact h

theorem isAscii_toUpper {c : Char} (h : c.isAscii = true) : c.toUpper.isAscii = true := by
  unfold Char.toUpper
  split
  · rename_i hc
    have hdiff : ('A'.val - 'a'.val).toNat = 4294967264 := by decide
    have h97 : 'a'.val.toNat = 97 := by decide
    simp only [Char.isAscii, Char.toNat, decide_eq_true_eq, UInt32.toNat_add, hdiff] at h ⊢
    simp only [UInt32.le_iff_toNat_le, h97] at hc
    omega
  · exact h

/-- The case maps of an ASCII character are the one-character ASCII ones. -/
theorem lowerChars_ascii {c : Char} (h : c.isAscii = true) : lowerChars c = [c.toLower] := by
  simp only [Char.isAscii, decide_eq_true_eq] at h
  simp [lowerChars, h]

theorem upperChars_ascii {c : Char} (h : c.isAscii = true) : upperChars c = [c.toUpper] := by
  simp only [Char.isAscii, decide_eq_true_eq] at h
  simp [upperChars, h]

theorem isAscii_of_mem_lowerCharsFrom {before cs : List Char} (h : ∀ c ∈ cs, c.isAscii = true) :
    ∀ d ∈ lowerCharsFrom before cs, d.isAscii = true := by
  induction cs generalizing before with
  | nil => simp [lowerCharsFrom]
  | cons c rest ih =>
    have hc := h c (by simp)
    -- the capital sigma is no ASCII character, so `c` takes its own lower case
    have hsigma : (c == capitalSigma) = false := by
      rw [beq_eq_false_iff_ne]
      rintro rfl
      simp [capitalSigma, Char.isAscii] at hc
    simp only [lowerCharsFrom, hsigma, lowerChars_ascii hc, Bool.false_eq_true, if_false,
      List.cons_append, List.nil_append, List.mem_cons]
    rintro d (rfl | hd)
    · exact isAscii_toLower hc
    · exact ih (fun d hd => h d (by simp [hd])) d hd

theorem isAsciiText_lowerString {s : String} (h : isAsciiText s = true) :
    isAsciiText (lowerString s) = true := by
  rw [isAsciiText_iff] at h ⊢
  simpa [lowerString] using isAscii_of_mem_lowerCharsFrom h

theorem isAsciiText_upperString {s : String} (h : isAsciiText s = true) :
    isAsciiText (upperString s) = true := by
  rw [isAsciiText_iff] at h ⊢
  simp only [upperString, String.toList_ofList, List.mem_flatMap]
  rintro d ⟨c, hc, hd⟩
  rw [upperChars_ascii (h c hc), List.mem_singleton] at hd
  exact hd ▸ isAscii_toUpper (h c hc)

/-! ### Words keep their characters -/

theorem mem_of_mem_clustersFrom {prev : Char} {current : List Char} {run : EmojiRun} {odd : Bool}
    {cs : List Char} {x : Char} (hx : x ∈ (clustersFrom prev current run odd cs).flatten) :
    x ∈ current ∨ x ∈ cs := by
  induction cs generalizing prev current run odd with
  | nil => simpa [clustersFrom] using hx
  | cons c rest ih =>
    simp only [clustersFrom] at hx
    split at hx
    · rcases ih hx with h | h
      · rcases List.mem_cons.1 h with rfl | h
        · exact .inr (by simp)
        · exact .inl h
      · exact .inr (by simp [h])
    · rw [List.flatten_cons, List.mem_append, List.mem_reverse] at hx
      rcases hx with h | h
      · exact .inl h
      · rcases ih h with h | h
        · exact .inr (by simp_all)
        · exact .inr (by simp [h])

theorem mem_of_mem_graphemeClusters {cs : List Char} {x : Char}
    (hx : x ∈ (graphemeClusters cs).flatten) : x ∈ cs := by
  cases cs with
  | nil => simp [graphemeClusters] at hx
  | cons c rest =>
    rcases mem_of_mem_clustersFrom hx with h | h
    · simp_all
    · simp [h]

theorem mem_of_mem_wordsFrom {current gs : List Cluster} {w : List Cluster}
    (hw : w ∈ wordsFrom current gs) : ∀ g ∈ w, g ∈ current ∨ g ∈ gs := by
  induction gs generalizing current with
  | nil =>
    simp only [wordsFrom, List.mem_singleton] at hw
    subst hw
    exact fun g hg => .inl (List.mem_reverse.1 hg)
  | cons g rest ih =>
    simp only [wordsFrom] at hw
    intro g' hg'
    split at hw
    · rcases List.mem_cons.1 hw with rfl | hw
      · exact .inl (List.mem_reverse.1 hg')
      · rcases ih hw g' hg' with h | h
        · simp at h
        · exact .inr (by simp [h])
    · split at hw
      · rcases List.mem_cons.1 hw with rfl | hw
        · rcases List.mem_cons.1 (List.mem_reverse.1 hg') with rfl | h
          · exact .inr (by simp)
          · exact .inl h
        · rcases ih hw g' hg' with h | h
          · simp at h
          · exact .inr (by simp [h])
      · rcases ih hw g' hg' with h | h
        · rcases List.mem_cons.1 h with rfl | h
          · exact .inr (by simp)
          · exact .inl h
        · exact .inr (by simp [h])

/-- Every character of a word of a name is a character of the name. -/
theorem mem_of_mem_words {s w : String} (hw : w ∈ words s) : ∀ c ∈ w.toList, c ∈ s.toList := by
  unfold words at hw
  split at hw
  · simp at hw
  · rename_i gs hgs
    obtain ⟨ws, hws, rfl⟩ := List.mem_map.1 hw
    intro c hc
    simp only [String.toList_ofList, List.mem_flatten] at hc
    obtain ⟨g, hg, hcg⟩ := hc
    rcases mem_of_mem_wordsFrom hws g hg with h | h
    · simp at h
    · exact mem_of_mem_graphemeClusters (List.mem_flatten.2 ⟨g, h, hcg⟩)

theorem isAsciiText_capitalize {w : String} (h : isAsciiText w = true) :
    isAsciiText (capitalize w) = true := by
  rw [isAsciiText_iff] at h
  unfold capitalize
  split
  · decide
  · rename_i c rest hw
    have hc : c.isAscii = true := h c (by simp [hw])
    have hrest : isAsciiText (String.ofList rest) = true :=
      isAsciiText_iff.2 fun d hd => h d (by simp_all)
    have hup : isAsciiText (String.ofList (Cluster.upper [c])) = true := by
      rw [Cluster.upper, String.ofList_toList]
      exact isAsciiText_upperString (by simp [isAsciiText, hc])
    simpa [isAsciiText] using And.intro (by simpa [isAsciiText] using hup)
      (by simpa [isAsciiText] using isAsciiText_lowerString hrest)

theorem isAsciiText_of_mem_words {s w : String} (h : isAsciiText s = true) (hw : w ∈ words s) :
    isAsciiText w = true :=
  isAsciiText_iff.2 fun c hc => isAsciiText_iff.1 h c (mem_of_mem_words hw c hc)

theorem isAsciiText_pascalCase {s : String} (h : isAsciiText s = true) :
    isAsciiText (pascalCase s) = true := by
  rw [isAsciiText_iff]
  intro c hc
  simp only [pascalCase, String.toList_join, List.mem_flatMap, List.mem_map] at hc
  obtain ⟨_, ⟨w, hw, rfl⟩, hc⟩ := hc
  exact isAsciiText_iff.1 (isAsciiText_capitalize (isAsciiText_of_mem_words h hw)) c hc

theorem mem_of_mem_intercalate {α : Type} {sep : List α} {xs : List (List α)} {a : α}
    (h : a ∈ sep.intercalate xs) : a ∈ sep ∨ ∃ x ∈ xs, a ∈ x := by
  induction xs with
  | nil => simp at h
  | cons x rest ih =>
    cases rest with
    | nil =>
      rw [List.intercalate_singleton] at h
      exact .inr ⟨x, by simp, h⟩
    | cons y more =>
      rw [List.intercalate_cons_of_ne_nil (by simp)] at h
      rcases List.mem_append.1 h with h | h
      · rcases List.mem_append.1 h with h | h
        · exact .inr ⟨x, by simp, h⟩
        · exact .inl h
      · rcases ih h with h | ⟨z, hz, h⟩
        · exact .inl h
        · exact .inr ⟨z, List.mem_cons_of_mem x hz, h⟩

theorem isAsciiText_snakeCase {s : String} (h : isAsciiText s = true) :
    isAsciiText (snakeCase s) = true := by
  rw [isAsciiText_iff]
  intro c hc
  simp only [snakeCase, String.toList_intercalate] at hc
  rcases mem_of_mem_intercalate hc with hc | ⟨x, hx, hc⟩
  · -- the separator is an underscore
    have : c = '_' := by simpa using hc
    subst this
    decide
  · simp only [List.map_map, List.mem_map, Function.comp_apply] at hx
    obtain ⟨w, hw, rfl⟩ := hx
    exact isAsciiText_iff.1 (isAsciiText_lowerString (isAsciiText_of_mem_words h hw)) c hc

theorem isAsciiText_dropPrefixIfAny {s pre : String} (h : isAsciiText s = true) :
    isAsciiText (dropPrefixIfAny s pre) = true := by
  unfold dropPrefixIfAny dropPrefix? stripPrefix?
  split
  · rw [isAsciiText_iff] at h ⊢
    intro c hc
    simp only [Option.map_some, Option.getD_some, String.toList_ofList] at hc
    exact h c (List.mem_of_mem_drop hc)
  · simpa using h

end Augment.Text

namespace Augment

open Augment.Rust Augment.Text

/-! ### Member names of usable exposed names -/

theorem isAsciiText_exposedName {field : String} (h : isAsciiText field = true) :
    isAsciiText (exposedName field) = true :=
  isAsciiText_pascalCase (isAsciiText_dropPrefixIfAny h)

theorem isAsciiText_getterName {exposed : String} (h : isAsciiText exposed = true) :
    isAsciiText (getterName exposed) = true :=
  isAsciiText_snakeCase h

/-- Every character of a text may continue an identifier. -/
def ContinuesIdent (s : String) : Prop :=
  ∀ c ∈ s.toList, isIdentContinue c = true

theorem ContinuesIdent.append {a b : String} (ha : ContinuesIdent a) (hb : ContinuesIdent b) :
    ContinuesIdent (a ++ b) := by
  intro c hc
  rcases List.mem_append.1 (by simpa using hc) with hc | hc
  · exact ha c hc
  · exact hb c hc

/-- A closed text is checked character by character; the boolean form keeps the check from
depending on which decision procedure for bounded quantifiers is in scope. -/
theorem ContinuesIdent.of_all {s : String} (h : s.toList.all isIdentContinue = true) :
    ContinuesIdent s :=
  fun c hc => List.all_eq_true.1 h c hc

/-- On ASCII characters the letters that `isUsable` admits are identifier characters. -/
theorem isIdentStart_of_isAlphabetic {c : Char} (ha : c.isAscii = true)
    (h : isAlphabetic c = true) : isIdentStart c = true := by
  simp only [Char.isAscii, decide_eq_true_eq] at ha
  simp only [isAlphabetic, ha, if_true] at h
  simp [isIdentStart, isXidStart, ha, h]

theorem isIdentContinue_of_isAlphanumeric {c : Char} (ha : c.isAscii = true)
    (h : (isAlphanumeric c || c == '_') = true) : isIdentContinue c = true := by
  simp only [Char.isAscii, decide_eq_true_eq] at ha
  simp only [isAlphanumeric, isAlphabetic, isNumeric, ha, if_true] at h
  simp only [isIdentContinue, isXidContinue, ha, if_true, Char.isAlphanum]
  simpa using h

/-- The getter of an ASCII exposed name that `isUsable` accepts is spelled like an identifier,
and is none of the words that have no use as member names. -/
theorem getterName_spelled {exposed : String} (ha : isAsciiText exposed = true)
    (hu : isUsable exposed = true) :
    Ident.isSpelled (getterName exposed) = true ∧ ContinuesIdent (getterName exposed) ∧
      getterName exposed ∉ unusableNames := by
  have hasc := isAsciiText_iff.1 (isAsciiText_getterName ha)
  simp only [isUsable, Bool.and_eq_true, Bool.not_eq_true', List.all_eq_true] at hu
  obtain ⟨⟨hfirst, hall⟩, hnot⟩ := hu
  have hcont : ContinuesIdent (getterName exposed) := fun c hc =>
    isIdentContinue_of_isAlphanumeric (hasc c hc) (hall c hc)
  refine ⟨?_, hcont, by simpa using hnot⟩
  split at hfirst
  · rename_i c rest hg
    refine Ident.isSpelled_iff.2 ⟨c, rest, hg, ?_, fun d hd => hcont d (by simp [hg, hd])⟩
    exact isIdentStart_of_isAlphabetic (hasc c (by simp [hg])) hfirst
  · cases hfirst

theorem not_mem_rawForbidden_of_underscore {s : String} (hu : '_' ∈ s.toList) (hne : s ≠ "_") :
    s ∉ rawForbidden :=
  fun hs => hne (eq_underscore_of_mem_rawForbidden hs hu)

/-- The text of an identifier token whose exposed name is usable is writable: each word barred
from raw identifiers has an exposed name that `isUsable` refuses. -/
theorem IdentText.writable_of_usable {name : String} (h : IdentText name)
    (hu : isUsable (exposedName name) = true) : Ident.Writable name := by
  refine h.writable fun hn => ?_
  simp only [rawForbidden, List.mem_cons, List.not_mem_nil, or_false] at hn
  rcases hn with rfl | rfl | rfl | rfl | rfl <;> revert hu <;> decide

/-- **Usable exposed names give member names that identifiers spell.** An ASCII exposed name that
`isUsable` accepts has a getter and a setter that `Ident.ofName` writes, and a property event whose
raise, subscription and handler list `Ident.exact` writes. -/
theorem usable_names_writable {exposed : String} (ha : isAsciiText exposed = true)
    (hu : isUsable exposed = true) :
    Ident.Writable (getterName exposed) ∧ Ident.Writable (setterName exposed) ∧
      (∃ t, Ident.exact ("on_" ++ eventName exposed) = .ok t) ∧
      ∃ ts, Fragment.eventCode exposed = .ok ts := by
  obtain ⟨hspelled, hcont, hnot⟩ := getterName_spelled ha hu
  have hstem : ContinuesIdent (eventName exposed) :=
    hcont.append (.of_all (by decide))
  have hset : Ident.isSpelled (setterName exposed) = true :=
    Ident.isSpelled_append (by decide) hcont
  have hon : Ident.isSpelled ("on_" ++ eventName exposed) = true :=
    Ident.isSpelled_append (by decide) hstem
  have hsub : Ident.isSpelled ("subscribe_" ++ eventName exposed) = true :=
    Ident.isSpelled_append (by decide) hstem
  have hhandlers : Ident.isSpelled ("__graft_" ++ eventName exposed ++ "_handlers") = true :=
    Ident.isSpelled_append (Ident.isSpelled_append (by decide) hstem)
      (ContinuesIdent.of_all (by decide))
  refine ⟨Ident.writable_of_isSpelled hspelled (not_mem_rawForbidden_of_not_mem_unusable hnot),
    Ident.writable_of_isSpelled hset ?_, ⟨_, Ident.exact_of_isSpelled hon⟩, ?_⟩
  · -- the setter holds an underscore and is longer than one
    refine not_mem_rawForbidden_of_underscore (by simp [setterName]) ?_
    intro h
    have hlen := congrArg String.length h
    have h4 : "set_".length = 4 := by decide
    have h1 : "_".length = 1 := by decide
    simp only [setterName, String.length_append, h4, h1] at hlen
    omega
  · simp [Fragment.eventCode, Ident.exact_of_isSpelled hhandlers, Ident.exact_of_isSpelled hsub,
      Ident.exact_of_isSpelled hon, bind, Except.bind, pure, Except.pure]

end Augment
