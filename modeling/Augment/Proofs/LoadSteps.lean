import Augment.Source.Load

/-!
# When reading a module tree ends

Reading a crate's module tree is a run of `loadStep` from the state that still has to read the
entry file (`LoadEnds` says that some number of steps leaves it done). `loadTree` gives that run
`2 * moduleLimit` steps: it answers how a reading that ends within them ends
(`loadTree_eq_of_advance`, `loadTree_eq_ok_iff`), and `LoadError.endless` for one that does not
(`loadTree_eq_endless_of_not_loadEnds`).

A module may name its own file again. When a file `p`, read as a module whose child files are in
`d`, declares as its first child module the file `p` with child files in `d` again, reading goes
round forever:

* `loadStep_selfInclusion` (one step): a state whose first pending module reads `p` into `d`,
  or adds the items of `p` with child files in `d`, steps to a state of the other kind, and so
  never to a done one;
* `advance_selfInclusion` (a whole run): every run from such a state is still reading;
* `loadTree_endless_of_selfInclusion`: reading a crate whose entry file is its own first child
  module never ends, whatever the rest of the tree holds; `loadTree_endless_pathSelf` is the file
  `src/lib.rs` that holds `#[path = "lib.rs"] mod m;`.
-/

namespace Augment.Source

open Augment.Rust
open Augment.Files

/-! ### Runs of reading steps -/

namespace LoadState

variable {t : FileTree}

@[simp]
theorem advance_zero (s : LoadState) : s.advance t 0 = s := by
  cases s <;> rfl

@[simp]
theorem advance_done (n : Nat) (r : Except LoadError LoadedTree) :
    (LoadState.done r).advance t n = .done r := by
  cases n <;> rfl

theorem advance_succ_reading (n : Nat) (pending : List Pending) (acc : LoadedTree) :
    (LoadState.reading pending acc).advance t (n + 1) = (loadStep t pending acc).advance t n :=
  rfl

/-- Running `m + n` steps runs `m` steps, then `n` more. -/
theorem advance_add (m n : Nat) (s : LoadState) :
    s.advance t (m + n) = (s.advance t m).advance t n := by
  induction m generalizing s with
  | zero => simp
  | succ m ih =>
    cases s with
    | done r => simp
    | reading pending acc =>
      rw [Nat.add_right_comm, advance_succ_reading, advance_succ_reading, ih]

/-- More steps keep a reading that is done as it is. -/
theorem advance_of_le {s : LoadState} {m n : Nat} {r : Except LoadError LoadedTree}
    (h : s.advance t m = .done r) (hmn : m ≤ n) : s.advance t n = .done r := by
  obtain ⟨k, rfl⟩ := Nat.exists_eq_add_of_le hmn
  rw [advance_add, h, advance_done]

/-- Only a reading that is done answers a tree: one still going on answers `LoadError.endless`. -/
theorem result_eq_ok_iff {s : LoadState} {tree : LoadedTree} :
    s.result = .ok tree ↔ s = .done (.ok tree) := by
  cases s <;> simp [result]

end LoadState

/-- The state that reads the module tree of the crate `crateName` from its entry file. -/
def loadStart (entry crateName : String) : LoadState :=
  .reading [.onDisk crateName entry ((parent? entry).getD "")] {}

/-- Reading the module tree from `entry` comes to an end: after some number of steps it is done,
with the tree or with the error that stopped it. -/
def LoadEnds (t : FileTree) (entry crateName : String) : Prop :=
  ∃ n r, (loadStart entry crateName).advance t n = .done r

section LoadTree

variable {t : FileTree} {entry crateName : String}

/-- `loadTree` answers how the reading stands after `2 * moduleLimit` steps. -/
theorem loadTree_eq_result (t : FileTree) (entry crateName : String) :
    loadTree t entry crateName =
      ((loadStart entry crateName).advance t (2 * moduleLimit)).result :=
  rfl

/-- A reading that ends within `2 * moduleLimit` steps is what `loadTree` answers. -/
theorem loadTree_eq_of_advance {n : Nat} {r : Except LoadError LoadedTree}
    (h : (loadStart entry crateName).advance t n = .done r) (hn : n ≤ 2 * moduleLimit) :
    loadTree t entry crateName = r := by
  rw [loadTree_eq_result, LoadState.advance_of_le h hn]
  rfl

/-- A tree that `loadTree` answers is the end of a reading within `2 * moduleLimit` steps. -/
theorem advance_of_loadTree_eq_ok {tree : LoadedTree}
    (h : loadTree t entry crateName = .ok tree) :
    (loadStart entry crateName).advance t (2 * moduleLimit) = .done (.ok tree) := by
  rw [loadTree_eq_result, LoadState.result_eq_ok_iff] at h
  exact h

/-- **The trees `loadTree` answers** are exactly those that a reading ends with within
`2 * moduleLimit` steps. -/
theorem loadTree_eq_ok_iff {tree : LoadedTree} :
    loadTree t entry crateName = .ok tree ↔
      ∃ n ≤ 2 * moduleLimit, (loadStart entry crateName).advance t n = .done (.ok tree) :=
  ⟨fun h => ⟨2 * moduleLimit, Nat.le_refl _, advance_of_loadTree_eq_ok h⟩,
    fun ⟨_, hn, h⟩ => loadTree_eq_of_advance h hn⟩

/-- A reading that never ends makes `loadTree` fail with `LoadError.endless`. -/
theorem loadTree_eq_endless_of_not_loadEnds (h : ¬ LoadEnds t entry crateName) :
    loadTree t entry crateName = .error .endless := by
  rw [loadTree_eq_result]
  cases hs : (loadStart entry crateName).advance t (2 * moduleLimit) with
  | reading pending acc => rfl
  | done r => exact absurd ⟨_, r, hs⟩ h

end LoadTree

/-! ### A file that is its own first child module -/

/-- Where a pending module still has to be read from: its file and the directory of its child
files; none for a module whose items are known. -/
def Pending.fileSite? : Pending → Option (String × String)
  | .onDisk _ path dir => some (path, dir)
  | .items .. => none

/-- The file and child directory of the first child module of the module read from `path` with
child files in `dir`, when that child is read from a file. -/
def firstChildSite? (t : FileTree) (path dir : String) : Option (String × String) :=
  match readItems t path with
  | .ok items => (childModules t "" path dir items).head?.bind Pending.fileSite?
  | .error _ => none

/-- Where the child modules are read from does not depend on the path of their parent. -/
theorem childModules_map_fileSite (t : FileTree) (ns ns' file dir : String) (items : List Item) :
    (childModules t ns file dir items).map Pending.fileSite? =
      (childModules t ns' file dir items).map Pending.fileSite? := by
  simp only [childModules, List.map_filterMap]
  congr 1
  funext i
  cases i with
  | mod attrs ident content =>
    cases content with
    | some inner => rfl
    | none =>
      cases hloc : locate t dir (unrawName ident) (pathAttribute attrs) <;>
        simp [hloc, Pending.fileSite?]
  | _ => rfl

/-- When the module read from `p` into `d` has `p` into `d` as its first child module, so does
every module read from `p` into `d`, whatever its path. -/
theorem childModules_selfInclusion {t : FileTree} {p d : String} {items : List Item}
    (hitems : readItems t p = .ok items) (h : firstChildSite? t p d = some (p, d)) (ns : String) :
    ∃ ns' more, childModules t ns p d items = .onDisk ns' p d :: more := by
  rw [firstChildSite?, hitems] at h
  have hsite : ((childModules t ns p d items).map Pending.fileSite?).head? = some (some (p, d)) := by
    rw [childModules_map_fileSite t ns ""]
    rw [List.head?_map]
    cases hhead : (childModules t "" p d items).head? with
    | none => simp [hhead] at h
    | some x => simp_all
  match hc : childModules t ns p d items, hsite with
  | .onDisk ns' path dir :: more, hs =>
    simp only [List.map_cons, List.head?_cons, Pending.fileSite?, Option.some.injEq,
      Prod.mk.injEq] at hs
    obtain ⟨rfl, rfl⟩ := hs
    exact ⟨ns', more, rfl⟩
  | .items .. :: _, hs => simp [Pending.fileSite?] at hs
  | [], hs => simp at hs

/-- A state that reads the file `p` into `d` next, or adds the items `items` of `p` with child
files in `d` next. -/
def SelfInclusion (p d : String) (items : List Item) (s : LoadState) : Prop :=
  ∃ ns rest acc, s = .reading (.onDisk ns p d :: rest) acc ∨
    s = .reading (.items ns p d items :: rest) acc

section SelfInclusion

variable {t : FileTree} {p d : String} {items : List Item}

/-- **One step** from a state that reads `p` into `d`, or adds its items, is a state of the
other kind. -/
theorem loadStep_selfInclusion (hitems : readItems t p = .ok items)
    (h : firstChildSite? t p d = some (p, d)) {s : LoadState} (hs : SelfInclusion p d items s) :
    SelfInclusion p d items (s.advance t 1) := by
  obtain ⟨ns, rest, acc, rfl | rfl⟩ := hs
  · -- reading the file gives its items
    refine ⟨ns, rest, { acc with files := acc.files ++ [p] }, .inr ?_⟩
    simp [LoadState.advance, loadStep, hitems]
  · -- adding the items puts the file itself first among the child modules
    obtain ⟨ns', more, hchild⟩ := childModules_selfInclusion hitems h ns
    refine ⟨ns', more ++ rest,
      { acc with modules := acc.modules ++ [{ ns, file := p, items := ownItems items }] }, .inl ?_⟩
    simp [LoadState.advance, loadStep, hchild]

/-- **A whole run** from a state that reads `p` into `d`, or adds its items, keeps reading. -/
theorem advance_selfInclusion (hitems : readItems t p = .ok items)
    (h : firstChildSite? t p d = some (p, d)) (n : Nat) {s : LoadState}
    (hs : SelfInclusion p d items s) : SelfInclusion p d items (s.advance t n) := by
  induction n generalizing s with
  | zero => simpa using hs
  | succ n ih =>
    rw [Nat.add_comm, LoadState.advance_add]
    exact ih (loadStep_selfInclusion hitems h hs)

theorem SelfInclusion.ne_done {s : LoadState} (hs : SelfInclusion p d items s)
    (r : Except LoadError LoadedTree) : s ≠ .done r := by
  obtain ⟨ns, rest, acc, rfl | rfl⟩ := hs <;> simp

end SelfInclusion

/-- **Reading never ends** for a crate whose entry file declares itself, with the same directory
for its child files, as its first child module. -/
theorem loadTree_endless_of_selfInclusion {t : FileTree} {entry : String} (crateName : String)
    (h : firstChildSite? t entry ((parent? entry).getD "") =
      some (entry, (parent? entry).getD "")) :
    ¬ LoadEnds t entry crateName := by
  rintro ⟨n, r, hn⟩
  -- the entry file is read (else there would be no first child), and the run never leaves
  -- the states that read it or add its items
  obtain ⟨items, hitems⟩ : ∃ items, readItems t entry = .ok items := by
    cases hread : readItems t entry with
    | ok items => exact ⟨items, rfl⟩
    | error e => simp [firstChildSite?, hread] at h
  have hstart : SelfInclusion entry ((parent? entry).getD "") items (loadStart entry crateName) :=
    ⟨crateName, [], {}, .inl rfl⟩
  exact (advance_selfInclusion hitems h n hstart).ne_done r hn

/-- A crate root that names itself as its child module `m` through a `path` attribute. -/
def selfPathTree : FileTree :=
  { entries := [(["src", "lib.rs"], .file "#[path = \"lib.rs\"] mod m;\n"), (["src"], .dir)] }

/-- The token trees of `#[path = "lib.rs"] mod m;`. -/
def selfPathTokens : TokenStream :=
  [.punct '#' .alone ⟨1, 0⟩,
   .group .bracket [.ident "path" ⟨1, 2⟩, .punct '=' .alone ⟨1, 7⟩, .literal "\"lib.rs\"" ⟨1, 9⟩]
     ⟨1, 1⟩ ⟨1, 17⟩,
   .ident "mod" ⟨1, 19⟩, .ident "m" ⟨1, 23⟩, .punct ';' .alone ⟨1, 24⟩]

/-- `src/lib.rs` holding `#[path = "lib.rs"] mod m;` is its own first child module, with the same
directory for its child files, so reading the crate never ends. -/
theorem loadTree_endless_pathSelf :
    firstChildSite? selfPathTree "src/lib.rs" ((parent? "src/lib.rs").getD "") =
        some ("src/lib.rs", (parent? "src/lib.rs").getD "") ∧
      ¬ LoadEnds selfPathTree "src/lib.rs" "app" := by
  have hlex : lexText (stripFileHeader "#[path = \"lib.rs\"] mod m;\n") = .ok selfPathTokens := by
    with_unfolding_all rfl
  have hcount : selfPathTokens.treeCount = 8 := by
    simp [selfPathTokens, TokenStream.treeCount]
  have hread : selfPathTree.read "src/lib.rs" = .ok "#[path = \"lib.rs\"] mod m;\n" := by
    with_unfolding_all rfl
  have hsite : firstChildSite? selfPathTree "src/lib.rs" ((parent? "src/lib.rs").getD "") =
      some ("src/lib.rs", (parent? "src/lib.rs").getD "") := by
    -- the kernel cannot count token trees (a recursion on sizes), so the depth of the grammar
    -- is put in before it evaluates the parse
    have hmapOk : ∀ {ε ε' α : Type} (f : ε → ε') (a : α), Except.mapError f (.ok a) = .ok a :=
      fun _ _ => rfl
    simp only [firstChildSite?, readItems, hread, hmapOk, parseFile, bind, Except.bind,
      hlex, grammarFor, hcount]
    decide +kernel
  exact ⟨hsite, loadTree_endless_of_selfInclusion "app" hsite⟩

end Augment.Source
