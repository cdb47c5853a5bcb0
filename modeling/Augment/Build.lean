import Augment.OutputDir

/-!
# Build runs

A build run generates a crate while the crate itself is being compiled. It reads its settings
from the environment: the crate directory, the build's output directory and the package name,
in that order, and stops at the first one missing. It writes the generated files into the
`graft` directory below the output directory.

It prints instructions for the build tool, one per line: to run again when the logging setting
changes, when the configuration file changes (if there is one), and when any file of the module
tree changes; then one warning per diagnostic. When errors were diagnosed and the configuration
denies them, the run fails after writing everything.
-/

namespace Augment

open Augment.Files

/-- The environment setting that controls logging. -/
def logEnv : String := "GRAFT_LOG"

/-- The directory below a build's output directory that receives the generated files. -/
def outputSubdir : String := "graft"

/-- What a build run did. -/
structure BuildReport where
  /-- The counts of the generation pass. -/
  stats : PassStats
  /-- What writing the output did. -/
  emit : EmitReport

/-- A build run's state: the tree and the lines printed so far. -/
structure BuildState where
  /-- The directory tree. -/
  tree : FileTree
  /-- The printed lines. -/
  stdout : List String := []

/-- A build run's steps: they may fail, and keep the tree and the printed lines. -/
abbrev BuildRun := ExceptT ProjectError (StateM BuildState)

namespace BuildRun

/-- Prints a line. -/
def say (line : String) : BuildRun Unit :=
  modify fun s => { s with stdout := s.stdout ++ [line] }

/-- An environment setting. -/
def envVar (env : List (String × String)) (name : String) : BuildRun String :=
  match env.lookup name with
  | some v => pure v
  | none => throw (.missingEnv name)

/-- Runs work on the tree. -/
def onTree {α : Type} (w : FileWork α) : BuildRun α := do
  let (r, t) := w.run.run (← get).tree
  modify fun s => { s with tree := t }
  ofExcept r

end BuildRun

open BuildRun in
/-- The instruction line of a diagnostic. -/
def warningLine (d : Diagnostic) : String :=
  "cargo:warning=" ++ d.severity.label ++ "[" ++ d.rule ++ "]: " ++ d.message ++ " (" ++
    d.location.text ++ ")"

open BuildRun in
/-- A build run with the given environment. -/
def runBuild (env : List (String × String)) : BuildRun BuildReport := do
  say ("cargo:rerun-if-env-changed=" ++ logEnv)
  let manifestDir ← envVar env "CARGO_MANIFEST_DIR"
  let outDir ← envVar env "OUT_DIR"
  let packageName ← envVar env "CARGO_PKG_NAME"
  let t := (← get).tree
  let configPath := join manifestDir configFileName
  if t.pathExists configPath then say ("cargo:rerun-if-changed=" ++ configPath)
  let p ← ofExcept ((Project.openAt t manifestDir packageName).mapError .config)
  let c ← ofExcept (p.load t)
  c.tree.files.forM fun f => say ("cargo:rerun-if-changed=" ++ f)
  let (stats, report) ← onTree (emitPass (join outDir outputSubdir) p c)
  report.diagnostics.forM fun d => say (warningLine d)
  let errors := report.errorCount
  if errors > 0 && p.config.denyErrors then throw (.denied errors)
  return { stats, emit := report }

end Augment
