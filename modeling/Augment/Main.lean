import Augment.Cli

/-!
# The command-line program

`graft [-m DIR] check [--format text|json]` and `graft [-m DIR] expand [-o DIR] [--module M]`
work on the project in `DIR`: the `--manifest-dir` option, else the `GRAFT_MANIFEST_DIR`
setting, else the current directory. The option may stand before or after the command.

The commands themselves are pure functions of a directory tree. This layer fills the tree from
the disk with the files the commands look at: the manifest, the configuration, the entry files,
and then every file the module tree reads or looks for, until reading the tree asks for nothing
new. After `expand -o` it writes the files whose text changed back to the disk. Files it never
looked at are not listed, so stale files in the output directory stay.

Exit statuses: what the command answers, 2 for a project error or rejected arguments, and 0 for
help and the version.
-/

namespace Augment.Program

open Augment.Files

/-- The program's version. -/
def version : String := "0.4.2"

/-- The program's help text. -/
def helpText : String :=
  "Marker-driven member synthesis for Rust types\n\n" ++
  "Usage: graft [OPTIONS] <COMMAND>\n\n" ++
  "Commands:\n  check   Report the diagnostics of one generation pass\n" ++
  "  expand  Print or write the generated files\n\n" ++
  "Options:\n  -m, --manifest-dir <MANIFEST_DIR>  [env: GRAFT_MANIFEST_DIR=] [default: .]\n" ++
  "  -h, --help                         Print help\n" ++
  "  -V, --version                      Print version\n"

/-- The location of a path from a current location, and the directories it passes through. -/
def locate (cwd : List String) (p : String) : List String × List (List String) :=
  let comps := components p
  let start := if p.startsWith "/" then [] else cwd
  let (loc, dirs) := comps.zipIdx.foldl (fun (loc, dirs) (c, i) =>
    match c with
    | .normal n =>
      let next := loc ++ [n]
      (next, if i + 1 < comps.length then dirs ++ [next] else dirs)
    | .parent => (loc.dropLast, dirs)
    | _ => (loc, dirs)) (start, [])
  (loc, dirs)

/-- Adds what a path holds to a tree, with the directories above it. -/
def record (t : FileTree) (loc : List String) (dirs : List (List String)) (e : Entry) : FileTree :=
  let above := (List.range loc.length).filterMap fun k =>
    if k == 0 then none else some (loc.take k)
  let t := (dirs ++ above).foldl (fun t d => if t.get? d == some .dir then t else t.set d .dir) t
  t.set loc e

/-- What a path holds on the disk. -/
def fetch (p : String) : IO (Option Entry) := do
  try
    return some (.file (← IO.FS.readFile p))
  catch e =>
    match e with
    | .inappropriateType _ 21 _ => return some .dir
    | .otherError 21 _ => return some .dir
    | _ => return none

/-- Fills a tree with what the disk holds at the given paths, skipping those it already knows. -/
def fetchAll (t : FileTree) (known : List String) (paths : List String) :
    IO (FileTree × List String) := do
  let mut t := t
  let mut known := known
  for p in paths do
    unless known.contains p do
      known := known ++ [p]
      let (loc, dirs) := locate t.cwd p
      match ← fetch p with
      | some e => t := record t loc dirs e
      | none => pure ()
  return (t, known)

/-- Fills a tree with the files of a project's crate, until reading it asks for nothing new;
at most `rounds` rounds. -/
def fetchCrate (dir : String) : Nat → FileTree → List String → IO (FileTree × List String)
  | 0, t, known => return (t, known)
  | n + 1, t, known => do
    let config := match loadConfig t dir with
      | .ok c => c
      | .error _ => {}
    let p : Project := { dir, packageName := "", config }
    let wanted := [Project.entry t p] ++ Source.probedPaths t (Project.entry t p)
    if wanted.all known.contains then return (t, known)
    let (t, known) ← fetchAll t known wanted
    fetchCrate dir n t known

/-- Fills a tree with what the commands on the project in a directory look at. -/
def projectTree (dir : String) : IO (FileTree × List String) := do
  let cwd := components (← IO.currentDir).toString
  let t : FileTree := { cwd := cwd.filterMap fun c => match c with
    | .normal n => some n
    | _ => none }
  let first := [join dir manifestFileName, join dir configFileName, join dir "src/lib.rs",
    join dir "src/main.rs"]
  let (t, known) ← fetchAll t [] first
  let t' := match loadConfig t dir with
    | .ok c => (c.entry.map (join dir)).toList
    | .error _ => []
  let (t, known) ← fetchAll t known t'
  fetchCrate dir Source.moduleLimit t known

/-- The path of a location. -/
def pathOf (loc : List String) : String :=
  "/" ++ "/".intercalate loc

/-- Writes the files whose text differs between two trees back to the disk. -/
def writeBack (before after : FileTree) : IO Unit := do
  for (loc, e) in after.entries.reverse do
    match e with
    | .file text =>
      if before.get? loc != some (.file text) then
        IO.FS.createDirAll (pathOf loc.dropLast)
        IO.FS.writeFile (pathOf loc) text
    | .dir => pure ()

/-- The manifest directory among the arguments, and the other arguments. -/
def manifestOption : List String → Option String × List String
  | [] => (none, [])
  | "-m" :: d :: rest | "--manifest-dir" :: d :: rest =>
    let (m, others) := manifestOption rest
    (m.orElse fun _ => some d, others)
  | a :: rest =>
    let (m, others) := manifestOption rest
    let here := if a.startsWith "--manifest-dir=" then some (a.drop 15).toString
      else if a.startsWith "-m" && a.length > 2 then some (a.drop 2).toString else none
    match here with
    | some d => (some d, others)
    | none => (m, a :: others)

/-- Reports a project error. -/
def fail (e : ProjectError) : IO UInt32 := do
  IO.eprintln ("error: " ++ e.message)
  return 2

/-- Reports rejected arguments. -/
def reject (e : Cli.ArgError) : IO UInt32 := do
  if e == .displayHelp then
    IO.print helpText
    return 0
  IO.eprintln ("error: the arguments were rejected (" ++ e.kind ++ ")")
  IO.eprint ("\nUsage: graft [OPTIONS] <COMMAND>\n")
  return 2

/-- Prints what a command printed and answers its status. -/
def finish (f : Cli.Finished) : IO UInt32 := do
  IO.print f.stdout
  IO.eprint f.stderr
  return f.exit.toUInt32

/-- Runs `check`. -/
def check (dir : String) (args : List String) : IO UInt32 := do
  match Cli.CheckArgs.parse args with
  | .error e => reject e
  | .ok a =>
    let (t, _) ← projectTree dir
    match Cli.runCheck t dir a with
    | .ok f => finish f
    | .error e => fail e

/-- Runs `expand`. -/
def expand (dir : String) (args : List String) : IO UInt32 := do
  match Cli.ExpandArgs.parse args with
  | .error e => reject e
  | .ok a =>
    let (t, known) ← projectTree dir
    let t ← match a.outDir, checkProject t dir with
      | some out, .ok r =>
        let names := r.output.sources.map (·.fileName) ++ r.namespaces.map (· ++ ".rs")
        pure (← fetchAll t known (out :: names.map (join out))).1
      | _, _ => pure t
    let (r, t') := (Cli.runExpand dir a).run.run t
    match r with
    | .ok f =>
      writeBack t t'
      finish f
    | .error e =>
      writeBack t t'
      fail e

/-- Runs the program with its arguments. -/
def run (argv : List String) : IO UInt32 := do
  let (m, args) := manifestOption argv
  let dir ← match m with
    | some d => pure d
    | none => pure ((← IO.getEnv "GRAFT_MANIFEST_DIR").getD ".")
  match args with
  | "check" :: rest => check dir rest
  | "expand" :: rest => expand dir rest
  | "-h" :: _ | "--help" :: _ | "help" :: _ => IO.print helpText; return 0
  | "-V" :: _ | "--version" :: _ => IO.println ("graft " ++ version); return 0
  | _ =>
    IO.eprint ("error: a command is required: check or expand\n\nUsage: graft [OPTIONS] <COMMAND>\n")
    return 2

end Augment.Program

/-- The command-line program. -/
def main (argv : List String) : IO UInt32 :=
  Augment.Program.run argv
