import Augment.Cli.Args
import Augment.OutputDir
import Augment.Text.Json

/-!
# The command line

Two commands work on the project in a directory.

`check [--format text|json]` runs one generation pass and reports its diagnostics: as text, each
diagnostic and then a summary line `crate: N diagnostic(s), counts`; as JSON, an object with the
crate name, the diagnostics and the counts. It ends with status 1 when an error was diagnosed,
else 0.

`expand [-o DIR] [--module M]` prints every generated file after a `// ---- name` line, or only
those of the module `M` itself; diagnostics go to the error stream. With an output directory it
writes the files there instead, as a build does, and prints the diagnostics afterwards. It ends
with status 0.

A project error ends a command with status 2.
-/

namespace Augment.Cli

open Augment.Files
open Augment.Text

/-- How `check` reports. -/
inductive ReportFormat where
  /-- Diagnostics and a summary line. -/
  | text
  /-- One JSON object. -/
  | json
  deriving DecidableEq, Repr

/-- The arguments of `check`. -/
structure CheckArgs where
  /-- How to report. -/
  format : ReportFormat := .text
  deriving DecidableEq, Repr

/-- The arguments of `expand`. -/
structure ExpandArgs where
  /-- The directory to write into, if any. -/
  outDir : Option String := none
  /-- The module whose files alone are printed, if any. -/
  module : Option String := none
  deriving DecidableEq, Repr

/-- The options of `check`. -/
def checkOptions : List OptionSpec :=
  [{ long := "format", kind := .choice ["json", "text"] }]

/-- The options of `expand`. -/
def expandOptions : List OptionSpec :=
  [{ long := "out-dir", short := some 'o', kind := .path }, { long := "module", kind := .text }]

/-- Reads the arguments of `check`. -/
def CheckArgs.parse (args : List String) : Except ArgError CheckArgs := do
  let given ← parseArgs checkOptions args
  return { format := if given.lookup "format" == some "json" then .json else .text }

/-- Reads the arguments of `expand`. -/
def ExpandArgs.parse (args : List String) : Except ArgError ExpandArgs := do
  let given ← parseArgs expandOptions args
  return { outDir := given.lookup "out-dir", module := given.lookup "module" }

/-- What a command printed and its exit status. -/
structure Finished where
  /-- The exit status. -/
  exit : Nat
  /-- The output stream. -/
  stdout : String
  /-- The error stream. -/
  stderr : String
  deriving DecidableEq, Repr

/-- The exit status of a command that failed. -/
def failureStatus : Nat := 2

/-- A diagnostic as a JSON object. -/
def diagnosticJson (d : Diagnostic) : JsonText :=
  .obj [("rule", .str d.rule), ("severity", .str d.severity.label),
        ("location", .obj [("file", .str d.location.file), ("line", .nat d.location.line),
                           ("column", .nat d.location.column)]),
        ("message", .str d.message)]

/-- Pass counts as a JSON object. -/
def statsJson (s : PassStats) : JsonText :=
  .obj [("candidates", .nat s.candidates), ("extracted", .nat s.extracted),
        ("reused", .nat s.reused), ("rendered", .nat s.rendered)]

/-- The JSON report of `check`. -/
def checkReportJson (crateName : String) (o : PassOutput) : JsonText :=
  .obj [("crate_name", .str crateName), ("diagnostics", .arr (o.diagnostics.map diagnosticJson)),
        ("stats", statsJson o.stats)]

/-- The text of diagnostics, one after another, each ending its line. -/
def diagnosticLines (ds : List Diagnostic) : String :=
  String.join (ds.map fun d => d.text ++ "\n")

/-- The text report of `check`. -/
def checkReportText (crateName : String) (o : PassOutput) : String :=
  diagnosticLines o.diagnostics ++ crateName ++ ": " ++ toString o.diagnostics.length ++
    " diagnostic(s), " ++ o.stats.text ++ "\n"

/-- Runs `check` on the project in a directory. -/
def runCheck (t : FileTree) (dir : String) (args : CheckArgs) : Except ProjectError Finished := do
  let p ← (Project.discover t dir).mapError .config
  let c ← p.load t
  let o ← p.generate c
  let stdout := match args.format with
    | .text => checkReportText p.crateName o
    | .json => (checkReportJson p.crateName o).pretty 0 ++ "\n"
  return { exit := if o.hasErrors then 1 else 0, stdout, stderr := "" }

/-- Whether a generated file belongs to the module itself: its name is the module's path, a dot,
and a name with exactly one dot. -/
def inModule (fileName module : String) : Bool :=
  match (fileName.dropPrefix? module) with
  | some rest => match rest.toString.toList with
    | '.' :: more => (more.filter (· == '.')).length == 1
    | _ => false
  | none => false

/-- The printed form of generated files. -/
def expandedText (sources : List SourceFile) (module : Option String) : String :=
  let shown := sources.filter fun f => module.all (inModule f.fileName)
  String.join (shown.map fun f => "// ---- " ++ f.fileName ++ "\n" ++ f.text ++ "\n")

/-- Runs `expand` on the project in a directory. -/
def runExpand (dir : String) (args : ExpandArgs) : FileWork Finished := do
  let t ← get
  let p ← MonadExcept.ofExcept ((Project.discover t dir).mapError .config)
  let c ← MonadExcept.ofExcept (p.load t)
  match args.outDir with
  | some out =>
    let (_, report) ← emitPass out p c
    return { exit := 0, stdout := "", stderr := diagnosticLines report.diagnostics }
  | none =>
    let o ← MonadExcept.ofExcept (p.generate c)
    return { exit := 0, stdout := expandedText o.sources args.module,
             stderr := diagnosticLines o.diagnostics }

end Augment.Cli
