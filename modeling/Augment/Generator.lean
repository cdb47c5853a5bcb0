import Augment.Pattern
import Augment.Diagnostic

/-!
# The generator

A generator applies both patterns to a model and checks the singleton rule, pass after pass, and
remembers enough of each pass to skip work in the next.

**One pattern's pass.** The candidates are the nodes the pattern looks at: every type node for the
singleton pattern, every field node with an attribute list for change notification. Each
candidate's record is read afresh, or taken from the previous pass when the node is known there
with the same revision. Records are grouped by owner, and each group's fragment is built afresh,
or taken from the previous pass when that owner's records are equal to the previous ones. The
statistics count the candidates, the records read and reused, and the fragments built.

**Caches.** A finished pass replaces both caches of its pattern with what it saw, so a node or an
owner that no longer occurs is forgotten. A cancelled pattern pass stops before it looks at a
candidate and changes nothing; a pattern with no candidates cannot notice a cancellation.

**Output.** Fragments are collected into one file per namespace and pattern, named
`namespace.pattern.rs`, holding the fragments in record order after a header line; the files are
sorted by name. Rendering the files can fail on a name that no identifier spells; they are
rendered namespace by namespace, and within one, change notification before singleton.
-/

namespace Augment

open Augment.Rust

/-- Why a pass produced no output. -/
inductive GenerationError where
  /-- The pass was cancelled, after the given number of candidates. -/
  | cancelled (processed : Nat)
  /-- A generated name is no identifier. -/
  | invalidIdent (e : IdentError)
  deriving DecidableEq, Repr

/-- The message that reports a generation error. -/
def GenerationError.message : GenerationError → String
  | .cancelled n => "generation pass cancelled after " ++ toString n ++ " candidates"
  | .invalidIdent e => e.message

/-- What a pass did. -/
structure PassStats where
  /-- The nodes looked at. -/
  candidates : Nat := 0
  /-- The records read afresh. -/
  extracted : Nat := 0
  /-- The records taken from the previous pass. -/
  reused : Nat := 0
  /-- The fragments built afresh. -/
  rendered : Nat := 0
  deriving DecidableEq, Repr, Inhabited

namespace PassStats

/-- The counts of two passes together. -/
def add (a b : PassStats) : PassStats :=
  { candidates := a.candidates + b.candidates, extracted := a.extracted + b.extracted,
    reused := a.reused + b.reused, rendered := a.rendered + b.rendered }

/-- The statistics as one line of text. -/
def text (s : PassStats) : String :=
  toString s.candidates ++ " candidates, " ++ toString s.extracted ++ " extracted, " ++
    toString s.reused ++ " reused, " ++ toString s.rendered ++ " rendered"

end PassStats

/-- The first line of every generated file. -/
def generatedHeader : String := "// @generated by graft. Do not edit."

/-- A generated file. -/
structure SourceFile where
  /-- The file name, `namespace.pattern.rs`. -/
  fileName : String
  /-- The namespace of the types it extends. -/
  ns : String
  /-- The pattern that generated it. -/
  pattern : Pattern
  /-- The names of the types it extends, in order. -/
  owners : List String
  /-- The file's text. -/
  text : String
  deriving DecidableEq, Repr, Inhabited

/-- What a pass produced. -/
structure PassOutput where
  /-- The generated files, sorted by name. -/
  sources : List SourceFile
  /-- The broken rules found. -/
  diagnostics : List Diagnostic
  /-- What the pass did. -/
  stats : PassStats
  deriving DecidableEq, Repr, Inhabited

/-- Whether any diagnostic of the pass is an error. -/
def PassOutput.hasErrors (o : PassOutput) : Bool :=
  o.diagnostics.any Diagnostic.isError

/-! ### One pattern -/

/-- What a pattern does with a model: which nodes it looks at, what it reads off one, and what
it adds to an owner from that owner's records. -/
structure PatternRun (α : Type) where
  /-- Whether the pattern looks at a node. -/
  isCandidate : Node → Bool
  /-- The record of a node. -/
  extract : NodeId → Option α
  /-- The owner of a record. -/
  ownerOf : α → SymbolId
  /-- The fragment added to an owner, from its records. -/
  synthesize : OwnerGroup α → Option Fragment

/-- A remembered record read. -/
structure Extraction (α : Type) where
  /-- The node's revision when the record was read. -/
  revision : Revision
  /-- The record read, if any. -/
  record : Option α
  deriving DecidableEq, Repr

/-- A remembered fragment. -/
structure Rendering (α : Type) where
  /-- The owner's records it was built from. -/
  records : List α
  /-- The fragment built, if any. -/
  fragment : Option Fragment
  deriving DecidableEq, Repr

/-- What one pattern remembers of its last finished pass. -/
structure PatternCache (α : Type) where
  /-- The records read, by node; a later entry of a node hides an earlier one. -/
  extracted : List (NodeId × Extraction α) := []
  /-- The fragments built, by owner. -/
  rendered : List (SymbolId × Rendering α) := []
  deriving DecidableEq, Repr

namespace PatternCache

variable {α : Type} [DecidableEq α]

/-- The record of a candidate, and whether it came from the cache. -/
def recordOf (c : PatternCache α) (p : PatternRun α) (n : Node) : Option α × Bool :=
  match c.extracted.lookup n.id with
  | some hit => if hit.revision == n.revision then (hit.record, true) else (p.extract n.id, false)
  | none => (p.extract n.id, false)

/-- The fragment of an owner group, and whether it was built afresh. -/
def fragmentOf (c : PatternCache α) (p : PatternRun α) (g : OwnerGroup α) : Option Fragment × Bool :=
  match c.rendered.lookup g.owner with
  | some hit => if hit.records == g.members then (hit.fragment, false) else (p.synthesize g, true)
  | none => (p.synthesize g, true)

/-- One finished pass of a pattern over a model: the fragments, in owner order, the statistics,
and the cache of the pass. -/
def pass (c : PatternCache α) (p : PatternRun α) (model : SymbolModel) :
    List Fragment × PassStats × PatternCache α :=
  let candidates := model.nodes.filter p.isCandidate
  let reads := candidates.map fun n => (n, c.recordOf p n)
  let groups := groupByOwner p.ownerOf (reads.filterMap fun r => r.2.1)
  let builds := groups.map fun g => (g, c.fragmentOf p g)
  let stats : PassStats :=
    { candidates := candidates.length,
      extracted := (reads.filter fun r => !r.2.2).length,
      reused := (reads.filter fun r => r.2.2).length,
      rendered := (builds.filter fun b => b.2.2).length }
  let cache : PatternCache α :=
    { extracted := (reads.map fun r => (r.1.id, { revision := r.1.revision, record := r.2.1 })).reverse,
      rendered := builds.map fun b => (b.1.owner, { records := b.1.members, fragment := b.2.1 }) }
  (builds.filterMap (·.2.1), stats, cache)

/-- A pass that may be cancelled: a cancelled pass with a candidate stops before reading it. -/
def run (c : PatternCache α) (p : PatternRun α) (model : SymbolModel) (cancelled : Bool) :
    Except GenerationError (List Fragment × PassStats × PatternCache α) :=
  if cancelled && model.nodes.any p.isCandidate then .error (.cancelled 0)
  else .ok (c.pass p model)

end PatternCache

/-! ### Files -/

/-- The fragments grouped by namespace and pattern, in order of first appearance. -/
def fileGroups (fragments : List Fragment) : List ((String × Pattern) × List Fragment) :=
  fragments.foldl (fun acc f =>
    let key := (f.ns, f.pattern)
    if acc.any (·.1 == key) then acc.map fun e => if e.1 == key then (e.1, e.2 ++ [f]) else e
    else acc ++ [(key, [f])]) []

/-- Whether one namespace and pattern comes before another: by namespace, then by pattern tag. -/
def fileKeyLE (a b : String × Pattern) : Bool :=
  a.1 < b.1 || (a.1 == b.1 && decide (a.2.tag ≤ b.2.tag))

/-- The file of the fragments of one namespace and pattern. -/
def assembleFile (ns : String) (pattern : Pattern) (fragments : List Fragment) :
    Except IdentError SourceFile := do
  let texts ← fragments.mapM fun f => do return printStream (← f.render) ++ "\n"
  return { fileName := ns ++ "." ++ pattern.tag ++ ".rs", ns, pattern,
           owners := fragments.map (·.ownerName),
           text := generatedHeader ++ "\n" ++ String.join texts }

/-- The files of a pass's fragments, sorted by name. -/
def assembleFiles (fragments : List Fragment) : Except IdentError (List SourceFile) := do
  let groups := (fileGroups fragments).mergeSort fun a b => fileKeyLE a.1 b.1
  let files ← groups.mapM fun g => assembleFile g.1.1 g.1.2 g.2
  return files.mergeSort fun a b => decide (a.fileName ≤ b.fileName)

/-! ### Both patterns -/

/-- The singleton pattern under the given options. -/
def singletonRun (opts : Options) (model : SymbolModel) : PatternRun TypeRecord where
  isCandidate := Node.isType
  extract := model.typeRecord? opts.markers
  ownerOf := TypeRecord.owner
  synthesize := singletonFragment opts.singleton opts.markers

/-- The change-notification pattern under the given options. -/
def notifyRun (opts : Options) (model : SymbolModel) : PatternRun FieldRecord where
  isCandidate := Node.isMarkedField
  extract := model.fieldRecord? opts.markers
  ownerOf := FieldRecord.owner
  synthesize := notifyFragment opts.notify opts.markers

/-- The singleton rule checked on every type node, in order. -/
def validate (markers : MarkerSet) (model : SymbolModel) (cancelled : Bool) :
    Except GenerationError (List Diagnostic) :=
  let types := model.nodes.filter Node.isType
  if cancelled && !types.isEmpty then .error (.cancelled 0)
  else .ok (types.filterMap fun n => model.diagnose markers n.id)

/-- A generator: the session's options and what each pattern remembers. -/
structure Generator where
  /-- The session's options. -/
  options : Options
  /-- What the singleton pattern remembers. -/
  singleton : PatternCache TypeRecord := {}
  /-- What the change-notification pattern remembers. -/
  notify : PatternCache FieldRecord := {}

namespace Generator

/-- A fresh generator. -/
def ofOptions (options : Options) : Generator := { options }

/-- One pass over a model: the generator after the pass, and the output or why there is none.
Each pattern that finishes keeps its new cache, even when a later step fails. -/
def generate (g : Generator) (model : SymbolModel) (cancelled : Bool) :
    Generator × Except GenerationError PassOutput :=
  match g.singleton.run (singletonRun g.options model) model cancelled with
  | .error e => (g, .error e)
  | .ok (singles, singleStats, singleCache) =>
    let g := { g with singleton := singleCache }
    match g.notify.run (notifyRun g.options model) model cancelled with
    | .error e => (g, .error e)
    | .ok (notes, noteStats, noteCache) =>
      let g := { g with notify := noteCache }
      let output := do
        let diagnostics ← validate g.options.markers model cancelled
        let sources ← (assembleFiles (singles ++ notes)).mapError .invalidIdent
        return { sources, diagnostics, stats := singleStats.add noteStats }
      (g, output)

end Generator

end Augment
