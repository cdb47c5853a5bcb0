import Augment.Text.Property.GraphemeData

/-!
# Grapheme clusters

Splitting text into extended grapheme clusters, the units a reader sees as one character: a
letter with its combining marks, a carriage return with its line feed, a Hangul syllable written
in jamo, an emoji joined by zero-width joiners, a pair of regional indicators.

Each character gets a break class, and a boundary lies between two characters unless one of the
rules of `joins` keeps them together.
-/

namespace Augment.Text

/-- The classes that decide where grapheme clusters break. -/
inductive BreakClass where
  | cr
  | lf
  | control
  | extend
  | zwj
  | regionalIndicator
  | prepend
  | spacingMark
  | hangulL
  | hangulV
  | hangulT
  | hangulLV
  | hangulLVT
  | other
  deriving DecidableEq, Repr

/-- The break class of a character. -/
def breakClass (c : Char) : BreakClass :=
  let n := c.toNat
  if n == 0x0D then .cr
  else if n == 0x0A then .lf
  else if n == 0x200D then .zwj
  else if n < 0x300 then
    if n < 0x20 || (0x7F ≤ n && n ≤ 0x9F) || n == 0xAD then .control else .other
  else if 0x1F1E6 ≤ n && n ≤ 0x1F1FF then .regionalIndicator
  else if (0x1100 ≤ n && n ≤ 0x115F) || (0xA960 ≤ n && n ≤ 0xA97C) then .hangulL
  else if (0x1160 ≤ n && n ≤ 0x11A7) || (0xD7B0 ≤ n && n ≤ 0xD7C6) then .hangulV
  else if (0x11A8 ≤ n && n ≤ 0x11FF) || (0xD7CB ≤ n && n ≤ 0xD7FB) then .hangulT
  else if 0xAC00 ≤ n && n ≤ 0xD7A3 then
    if (n - 0xAC00) % 28 == 0 then .hangulLV else .hangulLVT
  else if graphemeControlTable.contains c then .control
  else if graphemeExtendClassTable.contains c then .extend
  else if graphemePrependTable.contains c then .prepend
  else if graphemeSpacingMarkTable.contains c then .spacingMark
  else .other

/-- Whether the character has the property `Extended_Pictographic`. -/
def isExtendedPictographic (c : Char) : Bool :=
  c.toNat ≥ 0xA9 && extendedPictographicTable.contains c

/-- What has been seen of an emoji sequence: nothing, a pictograph followed by extenders, or
that followed by a zero-width joiner. -/
inductive EmojiRun where
  | none
  | pictograph
  | joined
  deriving DecidableEq, Repr

/-- The emoji run after one more character. -/
def EmojiRun.step (run : EmojiRun) (c : Char) : EmojiRun :=
  if isExtendedPictographic c then .pictograph
  else match run, breakClass c with
    | .pictograph, .extend => .pictograph
    | .pictograph, .zwj => .joined
    | _, _ => .none

/-- Whether two neighbouring characters belong to one cluster, given the emoji run and whether
an odd number of regional indicators ends at the first. -/
def joins (prev next : Char) (run : EmojiRun) (oddIndicators : Bool) : Bool :=
  match breakClass prev, breakClass next with
  | .cr, .lf => true
  | .cr, _ | .lf, _ | .control, _ => false
  | _, .cr | _, .lf | _, .control => false
  | .hangulL, .hangulL | .hangulL, .hangulV | .hangulL, .hangulLV | .hangulL, .hangulLVT => true
  | .hangulLV, .hangulV | .hangulLV, .hangulT | .hangulV, .hangulV | .hangulV, .hangulT => true
  | .hangulLVT, .hangulT | .hangulT, .hangulT => true
  | _, .extend | _, .zwj | _, .spacingMark => true
  | .prepend, _ => true
  | .regionalIndicator, .regionalIndicator => oddIndicators
  | _, _ => run == .joined && isExtendedPictographic next

/-- Splits the characters after `prev` into clusters; `current` is the cluster that `prev` ends,
read backwards. -/
def clustersFrom (prev : Char) (current : List Char) (run : EmojiRun) (oddIndicators : Bool) :
    List Char → List (List Char)
  | [] => [current.reverse]
  | c :: rest =>
    let run' := run.step c
    let odd' := breakClass c == .regionalIndicator && !(breakClass prev == .regionalIndicator
      && oddIndicators)
    if joins prev c run oddIndicators then
      clustersFrom c (c :: current) run' odd' rest
    else
      current.reverse :: clustersFrom c [c] run' odd' rest

/-- The grapheme clusters of a sequence of characters, in order. -/
def graphemeClusters : List Char → List (List Char)
  | [] => []
  | c :: rest =>
    clustersFrom c [c] (EmojiRun.none.step c) (breakClass c == .regionalIndicator) rest

end Augment.Text
