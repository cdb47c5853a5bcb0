/-!
# Jaro–Winkler similarity

How alike two names are, from 0 (nothing in common) to 1 (equal), used to suggest the name a
misspelt one was meant to be.

The Jaro similarity of `a` and `b` counts the characters that match: a character of `a` matches
the first unmatched equal character of `b` at most `max |a| |b| / 2 - 1` positions away. With `m`
matches and `t` half the number of matched pairs that stand in a different order, it is
`(m / |a| + m / |b| + (m - t) / m) / 3`, and 0 without matches; two empty names have
similarity 1, one empty name 0.

The Winkler variant favours a common start: when the Jaro similarity `s` exceeds 0.7 it becomes
`s + 0.1 · l · (1 - s)`, where `l ≤ 4` is the length of the common prefix.

The arithmetic is in binary floating point, in the order written, so values on either side of a
threshold compare as they would in any other implementation that does the same.
-/

namespace Augment.Text

/-- Which characters of `a` and of `b` match. -/
def jaroFlags (a b : List Char) : List Bool × List Bool :=
  let range := max a.length b.length / 2 - 1
  a.zipIdx.foldl (fun (af, bf) (c, i) =>
    let lo := i - range
    let hi := min b.length (i + range + 1)
    match (List.range' lo (hi - lo)).find? (fun j => b[j]? == some c && bf[j]? == some false) with
    | some j => (af.set i true, bf.set j true)
    | none => (af, bf)) (List.replicate a.length false, List.replicate b.length false)

/-- The characters whose flag is set, in order. -/
def flagged (cs : List Char) (flags : List Bool) : List Char :=
  (cs.zip flags).filterMap fun (c, f) => if f then some c else none

/-- The Jaro similarity of two names. -/
def jaro (a b : String) : Float :=
  let a := a.toList
  let b := b.toList
  if a.isEmpty && b.isEmpty then 1.0
  else if a.isEmpty || b.isEmpty then 0.0
  else
    let (af, bf) := jaroFlags a b
    let ma := flagged a af
    let mb := flagged b bf
    let m := ma.length
    if m == 0 then 0.0
    else
      let t := ((ma.zip mb).filter fun (x, y) => x != y).length / 2
      (m.toFloat / a.length.toFloat + m.toFloat / b.length.toFloat +
        (m - t).toFloat / m.toFloat) / 3.0

/-- The Jaro–Winkler similarity of two names. -/
def jaroWinkler (a b : String) : Float :=
  let sim := jaro a b
  if sim > 0.7 then
    let common := (((a.toList.take 4).zip b.toList).takeWhile fun (x, y) => x == y).length
    sim + 0.1 * common.toFloat * (1.0 - sim)
  else sim

/-- The candidate most like a name, when its similarity exceeds 0.8; of equally similar
candidates the first. -/
def closestName (name : String) (candidates : List String) : Option String :=
  (candidates.foldl (fun best c =>
    let score := jaroWinkler name c
    if score > 0.8 && (match best with
        | none => true
        | some (s, _) => s < score) then some (score, c)
    else best) (none : Option (Float × String))).map (·.2)

end Augment.Text
