import Augment.Files.Path

/-!
# Directory trees

A directory tree holds files and directories, each at its location: the list of names that
leads to it from the top directory, which always exists. An absolute path is resolved from the
top directory, a relative one from the tree's current directory.

Operations behave as the system calls they stand for, failures included:

* resolving a path walks its components; every name before the last must be a directory
  (`notFound` when it is missing, `notDirectory` when it is a file), and `..` steps back;
* a path written with a trailing separator asks for a directory;
* reading a directory fails with `isDirectory`, and so does writing over one or removing one as
  a file; creating a directory where a file is fails with `alreadyExists`.

`get?_set` says that a location holds what it was last set to.
-/

namespace Augment.Files

/-- Why an operation on files failed, as the system reports it. -/
inductive OsError where
  /-- A name is missing. -/
  | notFound
  /-- A directory stands where a file is needed. -/
  | isDirectory
  /-- A file stands where a directory is needed. -/
  | notDirectory
  /-- Something already exists where a directory was to be created. -/
  | alreadyExists
  deriving DecidableEq, Repr

/-- The system's text for an error. -/
def OsError.message : OsError → String
  | .notFound => "No such file or directory (os error 2)"
  | .isDirectory => "Is a directory (os error 21)"
  | .notDirectory => "Not a directory (os error 20)"
  | .alreadyExists => "File exists (os error 17)"

/-- What a location in a tree holds. -/
inductive Entry where
  /-- A file with its text. -/
  | file (text : String)
  /-- A directory. -/
  | dir
  deriving DecidableEq, Repr

/-- A directory tree: the entries below the top directory, at their locations. -/
structure FileTree where
  /-- Each location with its entry; the newest first. -/
  entries : List (List String × Entry) := []
  /-- The location relative paths start from. -/
  cwd : List String := []
  deriving Repr, Inhabited

/-- A resolved path: the location it names, and whether it asks for a directory. -/
structure Target where
  /-- The location. -/
  loc : List String
  /-- Whether the path was written with a trailing separator. -/
  dirOnly : Bool
  deriving DecidableEq, Repr

/-- Whether text follows the last component of a path: separators or `.` names, which ask for
a directory. -/
def dirOnly (p : String) : Bool :=
  match (pieces p).getLast? with
  | some last => decide (last.stop < p.length)
  | none => false

namespace FileTree

/-- What a location holds; the top directory is always a directory. -/
def get? (t : FileTree) (loc : List String) : Option Entry :=
  if loc.isEmpty then some .dir else t.entries.lookup loc

/-- Sets what a location holds. -/
def set (t : FileTree) (loc : List String) (e : Entry) : FileTree :=
  { t with entries := (loc, e) :: t.entries.filter (·.1 != loc) }

/-- Removes a location's entry. -/
def erase (t : FileTree) (loc : List String) : FileTree :=
  { t with entries := t.entries.filter (·.1 != loc) }

/-- The location a path starts from: the top directory for an absolute path, the current
directory otherwise. -/
def startOf (t : FileTree) (p : String) : List String :=
  if p.startsWith "/" then [] else t.cwd

/-- Walks components from a location: every name before the last must be a directory. -/
def walk (t : FileTree) : List String → List Component → Except OsError (List String)
  | loc, [] => .ok loc
  | loc, [.normal n] => .ok (loc ++ [n])
  | loc, .normal n :: rest =>
    match t.get? (loc ++ [n]) with
    | some .dir => walk t (loc ++ [n]) rest
    | some (.file _) => .error .notDirectory
    | none => .error .notFound
  | loc, .parent :: rest => walk t loc.dropLast rest
  | loc, _ :: rest => walk t loc rest

/-- Resolves a path. -/
def resolve (t : FileTree) (p : String) : Except OsError Target := do
  return ⟨← t.walk (t.startOf p) (components p), dirOnly p⟩

/-- What a path names, as a status query sees it. -/
def status (t : FileTree) (p : String) : Except OsError Entry := do
  let tg ← t.resolve p
  match t.get? tg.loc with
  | none => throw .notFound
  | some (.file text) => if tg.dirOnly then throw .notDirectory else return .file text
  | some .dir => return .dir

/-- Whether a path names anything. -/
def pathExists (t : FileTree) (p : String) : Bool :=
  match t.status p with
  | .ok _ => true
  | .error _ => false

/-- Whether a path names a file. -/
def isFile (t : FileTree) (p : String) : Bool :=
  match t.status p with
  | .ok (.file _) => true
  | _ => false

/-- The text of the file a path names. -/
def read (t : FileTree) (p : String) : Except OsError String := do
  match ← t.status p with
  | .file text => return text
  | .dir => throw .isDirectory

/-- Writes a file, creating it or replacing its text; its directory must exist. -/
def write (t : FileTree) (p : String) (text : String) : Except OsError FileTree := do
  let tg ← t.resolve p
  match t.get? tg.loc with
  | some .dir => throw .isDirectory
  | some (.file _) => if tg.dirOnly then throw .notDirectory else return t.set tg.loc (.file text)
  | none => if tg.dirOnly then throw .isDirectory else return t.set tg.loc (.file text)

/-- Removes the file a path names. -/
def removeFile (t : FileTree) (p : String) : Except OsError FileTree := do
  let tg ← t.resolve p
  match ← t.status p with
  | .file _ => return t.erase tg.loc
  | .dir => throw .isDirectory

/-- Creates the directories along components that do not exist yet, from a location. -/
def createDirs (t : FileTree) : List String → List Component → Except OsError FileTree
  | _, [] => .ok t
  | loc, .normal n :: rest =>
    match t.get? (loc ++ [n]) with
    | some .dir => createDirs t (loc ++ [n]) rest
    | some (.file _) => .error (if rest.isEmpty then .alreadyExists else .notDirectory)
    | none => createDirs (t.set (loc ++ [n]) .dir) (loc ++ [n]) rest
  | loc, .parent :: rest => createDirs t loc.dropLast rest
  | loc, _ :: rest => createDirs t loc rest

/-- Creates a directory and the missing directories above it; an existing directory is kept. -/
def createDirAll (t : FileTree) (p : String) : Except OsError FileTree :=
  t.createDirs (t.startOf p) (components p)

/-- The names in the directory at a location, sorted. -/
def childrenAt (t : FileTree) (loc : List String) : List String :=
  let names := t.entries.filterMap fun (l, _) =>
    match l.getLast? with
    | some n => if l.dropLast == loc then some n else none
    | none => none
  (names.eraseDups).mergeSort fun a b => decide (a < b) || a == b

/-- The names in the directory a path names, sorted. -/
def list (t : FileTree) (p : String) : Except OsError (List String) := do
  let tg ← t.resolve p
  match ← t.status p with
  | .dir => return t.childrenAt tg.loc
  | .file _ => throw .notDirectory

/-- The files in the directory a path names, by name, with their texts; none when the path
names no directory. -/
def filesIn (t : FileTree) (p : String) : List (String × String) :=
  match t.list p with
  | .ok names => names.filterMap fun n =>
    match t.read (join p n) with
    | .ok text => some (n, text)
    | .error _ => none
  | .error _ => []

/-! ### Laws -/

/-- A location holds what it was last set to. -/
theorem get?_set (t : FileTree) (loc : List String) (e : Entry) (h : loc ≠ []) :
    (t.set loc e).get? loc = some e := by
  simp [get?, set, h]

end FileTree

end Augment.Files
