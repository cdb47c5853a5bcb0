import Augment.Project

/-!
# Output directories

The files of a generation pass are written into an output directory, and next to them one
aggregate per module of the crate, `namespace.rs`, which includes the module's generated files by
their paths (none when the module has no generated files). A file that already holds the text is
left alone and counted as unchanged; any other is written. Last, every `.rs` file of the directory
that this run did not write or keep is removed, so the directory holds exactly the current
output.

The tree keeps every change, also when a later step fails: a failed run leaves what it wrote.
-/

namespace Augment

open Augment.Files

/-- Work on a directory tree that may fail; the tree keeps the changes made before a failure. -/
abbrev FileWork := ExceptT ProjectError (StateM FileTree)

/-- What filling an output directory did. -/
structure EmitReport where
  /-- Files written. -/
  written : Nat := 0
  /-- Files that already held their text. -/
  unchanged : Nat := 0
  /-- Stale files removed. -/
  removed : Nat := 0
  /-- The diagnostics of the pass. -/
  diagnostics : List Diagnostic := []
  deriving Repr, Inhabited

/-- The number of error diagnostics. -/
def EmitReport.errorCount (r : EmitReport) : Nat :=
  (r.diagnostics.filter Diagnostic.isError).length

/-- The namespace of a generated file name `namespace.pattern.rs`. -/
def namespaceOf (fileName : String) : Option String :=
  if fileName.endsWith ".rs" then
    match ((fileName.toList.take (fileName.length - 3)).reverse.dropWhile (· != '.')) with
    | '.' :: before => some (String.ofList before.reverse)
    | _ => none
  else none

/-- The aggregate of a module: the header, then one include per generated file. -/
def aggregate (paths : List String) : String :=
  generatedHeader ++ "\n" ++ String.join (paths.map fun p => "include!(" ++ Text.debugQuoted p ++ ");\n")

/-- An output directory being filled. -/
structure OutputDir where
  /-- The directory. -/
  dir : String
  /-- The written paths of each module's generated files, by module. -/
  includes : List (String × List String) := []
  /-- The paths this run wrote or kept. -/
  kept : List String := []
  /-- What was done so far. -/
  report : EmitReport := {}
  /-- The failure that stopped the writing of generated files. -/
  failure : Option ProjectError := none
  deriving Inhabited

namespace OutputDir

/-- Creates the directory and the missing ones above it. -/
def create (dir : String) : FileWork OutputDir := do
  match (← get).createDirAll dir with
  | .ok t => set t; return { dir }
  | .error e => throw (.io dir e)

/-- Writes a file unless it already holds the text, counting which. -/
def write (o : OutputDir) (path text : String) : FileWork OutputDir := do
  let o := { o with kept := o.kept ++ [path] }
  let t ← get
  let same := match t.read path with
    | .ok old => old == text
    | .error _ => false
  if same then return { o with report := { o.report with unchanged := o.report.unchanged + 1 } }
  else
    match t.write path text with
    | .ok t' => set t'; return { o with report := { o.report with written := o.report.written + 1 } }
    | .error e => throw (.io path e)

/-- Records a written path among its module's includes. -/
def addInclude (o : OutputDir) (ns path : String) : OutputDir :=
  match o.includes.lookup ns with
  | some paths => { o with includes := o.includes.map fun (n, ps) => if n == ns then (n, paths ++ [path]) else (n, ps) }
  | none => { o with includes := o.includes ++ [(ns, [path])] }

/-- Writes one generated file; after a failure nothing more is written. -/
def emitSource (o : OutputDir) (f : SourceFile) : StateM FileTree OutputDir := do
  if o.failure.isSome then return o
  let path := join o.dir f.fileName
  match ← (o.write path f.text).run with
  | .error e => return { o with failure := some e }
  | .ok o' => return match namespaceOf f.fileName with
    | some ns => o'.addInclude ns path
    | none => o'

/-- Writes one module's aggregate, with the includes recorded for it. -/
def writeAggregate (o : OutputDir) (ns : String) : FileWork OutputDir :=
  let paths := (o.includes.lookup ns).getD []
  let o := { o with includes := o.includes.filter (·.1 != ns) }
  o.write (join o.dir (ns ++ ".rs")) (aggregate paths)

/-- Whether two paths have the same components. -/
def samePath (a b : String) : Bool :=
  components a == components b

/-- Removes an entry of the directory when it is an `.rs` file that this run did not write or
keep, counting it. -/
def removeStale (o : OutputDir) (r : EmitReport) (name : String) : FileWork EmitReport := do
  let path := join o.dir name
  if extension? name == some "rs" && !(o.kept.any (samePath path)) then
    match (← get).removeFile path with
    | .ok t => set t; return { r with removed := r.removed + 1 }
    | .error e => throw (.io path e)
  else return r

/-- Removes the `.rs` files of the directory that this run did not write or keep. -/
def prune (o : OutputDir) : FileWork EmitReport := do
  let names ← match (← get).list o.dir with
    | .ok names => pure names
    | .error e => throw (.io o.dir e)
  names.foldlM o.removeStale o.report

/-- Finishes the directory: the first failure if any, else the aggregates of the modules, in
order, and the removal of stale files. -/
def finish (o : OutputDir) (namespaces : List String) : FileWork EmitReport := do
  if let some e := o.failure then throw e
  let o ← namespaces.foldlM writeAggregate o
  o.prune

/-- Writes a pass's files, records its diagnostics and finishes the directory. -/
def emit (o : OutputDir) (output : PassOutput) (namespaces : List String) : FileWork EmitReport := do
  let o ← (output.sources.foldlM emitSource o : StateM FileTree OutputDir)
  let o := { o with report := { o.report with diagnostics := output.diagnostics } }
  o.finish namespaces

end OutputDir

/-- Generates a project's crate into a directory: creates it, runs one pass, writes the pass. -/
def emitPass (dir : String) (p : Project) (c : Crate) : FileWork (PassStats × EmitReport) := do
  let o ← OutputDir.create dir
  let output ← MonadExcept.ofExcept (p.generate c)
  let report ← o.emit output c.index.namespaces
  return (output.stats, report)

end Augment
