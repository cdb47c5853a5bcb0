/-!
# Character tables

Two shapes of Unicode data, each read once from a compact hexadecimal text or written out as
its ranges.

* `CharTable`: a set of code points, as sorted disjoint inclusive ranges. Membership is a
  binary search over the ranges.
* `CharMap`: a partial map from code points to short strings, sorted by code point, for the case
  mappings. A code point absent from the map maps to itself.

The text form is a comma-separated list: `lo-hi` or `cp` for a table, `cp:a.b.c` for a map entry,
every number in lower-case hexadecimal.
-/

namespace Augment.Text

/-! ### Reading hexadecimal text -/

/-- The value of one hexadecimal digit, if the character is one. -/
def hexDigitValue (c : Char) : Option Nat :=
  if '0' ≤ c ∧ c ≤ '9' then some (c.toNat - '0'.toNat)
  else if 'a' ≤ c ∧ c ≤ 'f' then some (c.toNat - 'a'.toNat + 10)
  else if 'A' ≤ c ∧ c ≤ 'F' then some (c.toNat - 'A'.toNat + 10)
  else none

/-- The number written by a string of hexadecimal digits; other characters count as zero. -/
def parseHex (s : String) : Nat :=
  s.foldl (fun acc c => acc * 16 + (hexDigitValue c).getD 0) 0

/-! ### Range tables -/

/-- A set of code points given by sorted, disjoint, inclusive ranges. -/
structure CharTable where
  /-- The ranges, as pairs of first and last code point, in increasing order. -/
  ranges : Array (Nat × Nat)

namespace CharTable

/-- Reads a table from its text form (`lo-hi` or `cp` items separated by commas). -/
def ofHex (s : String) : CharTable :=
  ⟨((s.splitOn ",").filter (· ≠ "")).toArray.map fun item =>
    match item.splitOn "-" with
    | [lo, hi] => (parseHex lo, parseHex hi)
    | _ => (parseHex item, parseHex item)⟩

/-- Whether the code point `n` lies in one of the ranges at positions `lo` to `hi - 1`. -/
def searchCode (t : CharTable) (n : Nat) (lo hi : Nat) : Bool :=
  if _h : lo < hi then
    let mid := (lo + hi) / 2
    match t.ranges[mid]? with
    | some (a, b) =>
      if n < a then t.searchCode n lo mid
      else if b < n then t.searchCode n (mid + 1) hi
      else true
    | none => false
  else false
termination_by hi - lo

/-- Whether the code point `n` belongs to the table. -/
def containsCode (t : CharTable) (n : Nat) : Bool :=
  t.searchCode n 0 t.ranges.size

/-- Whether the character belongs to the table. -/
def contains (t : CharTable) (c : Char) : Bool :=
  t.containsCode c.toNat

end CharTable

/-! ### Mapping tables -/

/-- A map from code points to strings, sorted by code point. -/
structure CharMap where
  /-- The entries, as a code point and the characters it maps to, in increasing order. -/
  entries : Array (Nat × List Char)

namespace CharMap

/-- Reads a map from its text form (`cp:a.b.c` items separated by commas). -/
def ofHex (s : String) : CharMap :=
  ⟨((s.splitOn ",").filter (· ≠ "")).toArray.map fun item =>
    match item.splitOn ":" with
    | [k, v] => (parseHex k, (v.splitOn ".").map fun d => Char.ofNat (parseHex d))
    | _ => (parseHex item, [])⟩

/-- The image of the code point `n` among the entries at positions `lo` to `hi - 1`. -/
def searchCode (m : CharMap) (n : Nat) (lo hi : Nat) : Option (List Char) :=
  if _h : lo < hi then
    let mid := (lo + hi) / 2
    match m.entries[mid]? with
    | some (k, v) =>
      if n < k then m.searchCode n lo mid
      else if k < n then m.searchCode n (mid + 1) hi
      else some v
    | none => none
  else none
termination_by hi - lo

/-- The image of a character: its entry, or the character itself when it has none. -/
def apply (m : CharMap) (c : Char) : List Char :=
  (m.searchCode c.toNat 0 m.entries.size).getD [c]

end CharMap

end Augment.Text
