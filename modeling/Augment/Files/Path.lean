/-!
# File paths

A path is a text of names separated by `/`. One that starts with `/` is absolute, any other is
relative. Read as components, a path is its root (if absolute), a leading `.` (if relative and
written so), then its names: empty names and `.` names inside it are dropped, and `..` names
the parent directory.

The operations here keep the text of a path as written, which is what messages show:

* `join base p` appends `p` after one separator, and is `p` itself when `p` is absolute;
* `parent? p` is the text before the last component, without the separators and `.` names
  that end it;
* `stripPrefix? p base` is the text after the components of `base`, when they begin the
  components of `p`.

`join_of_absolute` says that joining an absolute path gives that path.
-/

namespace Augment.Files

/-- One component of a path. -/
inductive Component where
  /-- The root of an absolute path. -/
  | root
  /-- A leading `.` of a relative path. -/
  | current
  /-- A `..` name. -/
  | parent
  /-- Any other name. -/
  | normal (name : String)
  deriving DecidableEq, Repr, Inhabited

/-- A component with the character offsets where its text starts and stops. -/
structure Piece where
  /-- The component. -/
  comp : Component
  /-- The offset of its first character. -/
  start : Nat
  /-- The offset after its last character. -/
  stop : Nat
  deriving DecidableEq, Repr, Inhabited

/-- The names between separators of a text, each with the offset it starts at; `acc` holds the
characters of the name being read (last first), which started at `start`, and `pos` is the
offset of the text's first character. -/
def segmentsFrom : List Char → List Char → Nat → Nat → List (String × Nat)
  | [], acc, start, _ => [(String.ofList acc.reverse, start)]
  | c :: rest, acc, start, pos =>
    if c == '/' then (String.ofList acc.reverse, start) :: segmentsFrom rest [] (pos + 1) (pos + 1)
    else segmentsFrom rest (c :: acc) start (pos + 1)

/-- The components of the body of a path, which starts at offset `pos`. -/
def bodyPieces (cs : List Char) (pos : Nat) : List Piece :=
  (segmentsFrom cs [] pos pos).filterMap fun (s, start) =>
    if s == "" || s == "." then none
    else some ⟨if s == ".." then .parent else .normal s, start, start + s.length⟩

/-- The components of a path, located in its text. -/
def pieces (p : String) : List Piece :=
  match p.toList with
  | '/' :: rest => ⟨.root, 0, 1⟩ :: bodyPieces rest 1
  | ['.'] => [⟨.current, 0, 1⟩]
  | '.' :: '/' :: rest => ⟨.current, 0, 1⟩ :: bodyPieces ('/' :: rest) 1
  | cs => bodyPieces cs 0

/-- The components of a path. -/
def components (p : String) : List Component :=
  (pieces p).map (·.comp)

/-- The offset where the body of a path starts: after its root or its leading `.`. -/
def bodyStart (p : String) : Nat :=
  match (pieces p).head? with
  | some ⟨.root, _, _⟩ | some ⟨.current, _, _⟩ => 1
  | _ => 0

/-- Drops the separators and `.` names that start a text. -/
def trimStart : List Char → List Char
  | '/' :: rest => trimStart rest
  | ['.'] => []
  | '.' :: '/' :: rest => trimStart rest
  | cs => cs

/-- Drops the separators and `.` names that end a reversed text. -/
def trimEndRev : List Char → List Char
  | '/' :: rest => trimEndRev rest
  | ['.'] => []
  | '.' :: '/' :: rest => trimEndRev rest
  | cs => cs

/-- Drops the separators and `.` names that end a text. -/
def trimEnd (cs : List Char) : List Char :=
  (trimEndRev cs.reverse).reverse

/-- A path followed by another: `p` itself when it is absolute or `base` is empty, else `p`
after `base` and one separator (none when `base` already ends with one). -/
def join (base p : String) : String :=
  if p.startsWith "/" then p
  else if base.isEmpty || base.endsWith "/" then base ++ p
  else base ++ "/" ++ p

/-- The path of the directory that holds a path's last component; none for a root or an empty
path. -/
def parent? (p : String) : Option String :=
  match (pieces p).getLast? with
  | none => none
  | some ⟨.root, _, _⟩ => none
  | some last =>
    let cs := p.toList
    let b := bodyStart p
    some (String.ofList (cs.take (min b last.start) ++ trimEnd ((cs.take last.start).drop b)))

/-- The last component of a path, when it is a name. -/
def fileName? (p : String) : Option String :=
  match (components p).getLast? with
  | some (.normal n) => some n
  | _ => none

/-- The extension of a file name: the text after its last `.`, when some text other than that
`.` comes before it. -/
def extension? (name : String) : Option String :=
  if name == ".." then none
  else
    match (name.splitOn ".").reverse with
    | after :: before@(_ :: _) =>
      if String.intercalate "." before.reverse == "" then none else some after
    | _ => none

/-- The text of a path after the components of `base`, when they begin its components. The
separators and `.` names that end it are dropped; when `base` has no components the root or
leading `.` stays, and otherwise those that start it are dropped too. -/
def stripPrefix? (p base : String) : Option String :=
  let ps := pieces p
  let bs := components base
  let cs := p.toList
  if bs.isPrefixOf (ps.map (·.comp)) then
    match bs.length with
    | 0 =>
      let b := bodyStart p
      some (String.ofList (cs.take b ++ trimEnd (cs.drop b)))
    | n + 1 =>
      let stop := (ps[n]?.map (·.stop)).getD 0
      some (String.ofList (trimEnd (trimStart (cs.drop stop))))
  else none

/-- A path relative to a directory when the directory's components begin it; the path itself
otherwise. -/
def relativeTo (p base : String) : String :=
  (stripPrefix? p base).getD p

/-! ### Laws -/

/-- Joining an absolute path gives that path. -/
theorem join_of_absolute (base p : String) (h : p.startsWith "/" = true) : join base p = p := by
  simp [join, h]

end Augment.Files
