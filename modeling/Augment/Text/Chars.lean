import Augment.Text.Property.Letter

/-!
# Cutting and joining text

The few operations on text that paths, names and file names need, stated on character lists so
that their laws are plain list facts: removing a prefix, cutting at a separator from the left or
from the right, replacing every occurrence of a pattern, and trimming blanks.

Cutting from the left takes the leftmost occurrence and goes on after it, so occurrences never
overlap; cutting from the right takes the rightmost occurrence.
-/

namespace Augment.Text

/-- The rest of `s` after the prefix `pre`, if `s` starts with it. -/
def stripPrefix? (pre s : List Char) : Option (List Char) :=
  if pre.isPrefixOf s then some (s.drop pre.length) else none

/-- Whether `pat` occurs in `s`. -/
def occursIn (pat : List Char) : List Char → Bool
  | [] => pat.isEmpty
  | c :: rest => pat.isPrefixOf (c :: rest) || occursIn pat rest

/-- The parts of `s` before and after the leftmost occurrence of `sep`, if there is one. -/
def splitFirst? (sep : List Char) : List Char → Option (List Char × List Char)
  | [] => if sep.isEmpty then some ([], []) else none
  | c :: rest =>
    match stripPrefix? sep (c :: rest) with
    | some after => some ([], after)
    | none => (splitFirst? sep rest).map fun (a, b) => (c :: a, b)

/-- The two parts around an occurrence make up the whole text with the separator. -/
theorem splitFirst?_length {sep s a b : List Char} (h : splitFirst? sep s = some (a, b)) :
    a.length + sep.length + b.length = s.length := by
  induction s generalizing a b with
  | nil =>
    simp only [splitFirst?] at h
    split at h <;> simp_all
  | cons c rest ih =>
    simp only [splitFirst?] at h
    split at h
    · rename_i after hs
      simp only [stripPrefix?] at hs
      split at hs
      · rename_i hp
        obtain ⟨rfl, rfl⟩ : a = [] ∧ b = after := by simp_all
        simp only [Option.some.injEq] at hs
        subst hs
        have := ( List.isPrefixOf_iff_prefix.1 hp).length_le
        simp only [List.length_nil, List.length_drop, List.length_cons] at *
        omega
      · simp at hs
    · obtain ⟨⟨a', b'⟩, h', he⟩ := Option.map_eq_some_iff.1 h
      simp only [Prod.mk.injEq] at he
      obtain ⟨rfl, rfl⟩ := he
      have := ih h'
      simp only [List.length_cons]
      omega

/-- The pieces of `s` between the occurrences of the non-empty separator `sep`. -/
def splitFrom (sep : List Char) (hsep : sep ≠ []) (s : List Char) : List (List Char) :=
  match h : splitFirst? sep s with
  | some (a, b) =>
    have : b.length < s.length := by
      have := splitFirst?_length h
      have : 0 < sep.length := List.length_pos_iff.2 hsep
      omega
    a :: splitFrom sep hsep b
  | none => [s]
termination_by s.length

/-- The pieces of `s` between the occurrences of `sep`; an empty separator cuts nothing. -/
def splitOnChars (sep s : List Char) : List (List Char) :=
  if h : sep = [] then [s] else splitFrom sep h s

/-- The parts of `s` before and after the rightmost occurrence of `sep`, if there is one. -/
def splitLast? (sep s : List Char) : Option (List Char × List Char) :=
  (splitFirst? sep.reverse s.reverse).map fun (a, b) => (b.reverse, a.reverse)

/-- Every occurrence of the non-empty pattern `pat` replaced by `rep`, from the left. -/
def replaceAll (pat rep s : List Char) : List Char :=
  if pat.isEmpty then s else rep.intercalate (splitOnChars pat s)

/-- The characters left after removing blanks (`White_Space`) at both ends. -/
def trimBlank (s : List Char) : List Char :=
  ((s.dropWhile isWhiteSpace).reverse.dropWhile isWhiteSpace).reverse

/-! ### The same on strings -/

/-- The rest of a string after a prefix, if it starts with it. -/
def dropPrefix? (s pre : String) : Option String :=
  (stripPrefix? pre.toList s.toList).map String.ofList

/-- The string without the prefix, or unchanged when it does not start with it. -/
def dropPrefixIfAny (s pre : String) : String :=
  (dropPrefix? s pre).getD s

/-- Whether `pat` occurs in the string. -/
def containsText (s pat : String) : Bool :=
  occursIn pat.toList s.toList

/-- The pieces of a string between the occurrences of a separator. -/
def splitText (s sep : String) : List String :=
  (splitOnChars sep.toList s.toList).map String.ofList

/-- The parts of a string before and after the rightmost occurrence of a separator. -/
def splitLastText? (s sep : String) : Option (String × String) :=
  (splitLast? sep.toList s.toList).map fun (a, b) => (String.ofList a, String.ofList b)

/-- The string with every occurrence of `pat` replaced by `rep`. -/
def replaceText (s pat rep : String) : String :=
  String.ofList (replaceAll pat.toList rep.toList s.toList)

/-- The string without blanks at either end. -/
def trimText (s : String) : String :=
  String.ofList (trimBlank s.toList)

end Augment.Text
