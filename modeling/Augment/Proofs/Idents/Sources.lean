import Augment.Proofs.Idents.Items
import Augment.Proofs.LoadSteps

/-!
# Module trees read from ASCII sources

A crate's module tree is read from one source text, following its inline modules, or from files,
following every `mod name;` to the file that holds it. Either way the items of each module are
items a parse read, or the contents of inline modules among them. So when the identifiers of
every text read are ASCII, every module declares only names read as ASCII identifier texts.

* `ModulesNamed`: every item of every module is named by ASCII identifier texts.
* `modulesOfSource_named`: the modules of one source text.
* `LoadState.Named`, `loadStep_named`, `advance_named`: reading files is a run of steps that each
  keep the pending modules and the tree so far named; `finished_named` is a whole run that ends,
  however many steps it takes.
* `AsciiSourced`: the module lists read either way from texts whose identifiers are ASCII;
  `AsciiSourced.ofLoadTree`: the trees that `loadTree` answers are among them.
-/

namespace Augment.Source

open Augment.Rust
open Augment.Files

/-- Every item of a list is named by ASCII identifier texts. -/
def ItemsNamed (items : List Item) : Prop :=
  ∀ i ∈ items, i.NamedBy AsciiIdent

/-- Every item of every module is named by ASCII identifier texts. -/
def ModulesNamed (modules : List Module) : Prop :=
  ∀ m ∈ modules, ItemsNamed m.items

theorem ItemsNamed.ownItems {items : List Item} (h : ItemsNamed items) :
    ItemsNamed (Source.ownItems items) :=
  fun i hi => h i (List.mem_of_mem_filter hi)

/-- The contents of a named inline module are named. -/
theorem ItemsNamed.content {attrs : List Attribute} {ident : String} {content : List Item}
    (h : (Item.mod attrs ident (some content)).NamedBy AsciiIdent) : ItemsNamed content := by
  cases h with
  | mod _ _ hcontent => exact hcontent content rfl

theorem modulesNamed_nil : ModulesNamed [] := by
  simp [ModulesNamed]

theorem ModulesNamed.cons {m : Module} {modules : List Module} (hm : ItemsNamed m.items)
    (h : ModulesNamed modules) : ModulesNamed (m :: modules) := by
  intro m' hm'
  rcases List.mem_cons.1 hm' with rfl | hm'
  · exact hm
  · exact h m' hm'

theorem ModulesNamed.append {modules modules' : List Module} (h : ModulesNamed modules)
    (h' : ModulesNamed modules') : ModulesNamed (modules ++ modules') := by
  intro m hm
  rcases List.mem_append.1 hm with hm | hm
  · exact h m hm
  · exact h' m hm

/-! ### One source text -/

theorem inlineChildren_named (ns file : String) (items : List Item) (h : ItemsNamed items) :
    ModulesNamed (inlineChildren ns file items) := by
  -- on the items, entering the contents of each inline module
  fun_induction inlineChildren ns file items with
  | case1 => exact modulesNamed_nil
  | case2 ns attrs ident content rest child ihContent ihRest =>
    have hmod := h _ List.mem_cons_self
    have hrest : ItemsNamed rest := fun i hi => h i (List.mem_cons_of_mem _ hi)
    exact (ModulesNamed.cons (ItemsNamed.content hmod).ownItems
      (ihContent (ItemsNamed.content hmod))).append (ihRest hrest)
  | case3 ns i rest _ ih => exact ih fun i hi => h i (List.mem_cons_of_mem _ hi)

theorem inlineModules_named (crateName file : String) {items : List Item}
    (h : ItemsNamed items) : ModulesNamed (inlineModules crateName file items) :=
  ModulesNamed.cons h.ownItems (inlineChildren_named crateName file items h)

/-- **The modules of one source text are named by ASCII identifiers** when the identifiers of
the text are ASCII. -/
theorem modulesOfSource_named {file text crateName : String} {modules : List Module}
    (hascii : IdentsAscii text) (h : modulesOfSource file text crateName = .ok modules) :
    ModulesNamed modules := by
  unfold modulesOfSource at h
  split at h
  · rename_i items hparse
    cases h
    exact inlineModules_named crateName file (parseFile_namedBy hascii hparse)
  · cases h

/-! ### Files -/

/-- Every text that can be read from the file tree has ASCII identifiers. -/
def FilesAscii (t : FileTree) : Prop :=
  ∀ path text, t.read path = .ok text → IdentsAscii text

theorem readItems_named {t : FileTree} {path : String} {items : List Item} (ht : FilesAscii t)
    (h : readItems t path = .ok items) : ItemsNamed items := by
  simp only [readItems] at h
  cases hread : t.read path with
  | error e => simp [hread, Except.mapError, bind, Except.bind] at h
  | ok text =>
    cases hparse : parseFile text with
    | error e => simp [hread, hparse, Except.mapError, bind, Except.bind] at h
    | ok items' =>
      simp only [hread, hparse, Except.mapError, bind, Except.bind, Except.ok.injEq] at h
      subst h
      exact parseFile_namedBy (ht path text hread) hparse

/-- A module still to add is named when its items are known and named. -/
def Pending.Named : Pending → Prop
  | .items _ _ _ found => ItemsNamed found
  | .onDisk .. => True

/-- A state of reading is named when the modules still to add and the tree so far are, and a
finished reading is named when the tree it read is. -/
def LoadState.Named : LoadState → Prop
  | .reading pending acc => (∀ p ∈ pending, p.Named) ∧ ModulesNamed acc.modules
  | .done (.ok tree) => ModulesNamed tree.modules
  | .done (.error _) => True

theorem childModules_named (t : FileTree) (ns file dir : String) {items : List Item}
    (h : ItemsNamed items) : ∀ p ∈ childModules t ns file dir items, p.Named := by
  intro p hp
  simp only [childModules, List.mem_filterMap] at hp
  obtain ⟨i, hi, hp⟩ := hp
  -- only an inline module brings its items along; a module on disk is still to be read
  split at hp
  · rename_i attrs ident content
    split at hp
    · rename_i inner
      cases hp
      exact (ItemsNamed.content (h _ hi) :)
    · simp only [Option.map_eq_some_iff] at hp
      obtain ⟨_, -, rfl⟩ := hp
      trivial
  · cases hp

variable {t : FileTree}

/-- **One step** of reading keeps the state named: a file read is parsed into named items, and
the items of a module added go to the tree while its children join the modules to add. -/
theorem loadStep_named (ht : FilesAscii t) {pending : List Pending} {acc : LoadedTree}
    (h : (LoadState.reading pending acc).Named) : (loadStep t pending acc).Named := by
  obtain ⟨hpending, hacc⟩ := h
  match pending, hpending with
  | [], _ => exact hacc
  | .onDisk ns path dir :: rest, hpending =>
    simp only [loadStep]
    split
    · rename_i items hitems
      refine ⟨?_, hacc⟩
      intro p hp
      rcases List.mem_cons.1 hp with rfl | hp
      · exact readItems_named ht hitems
      · exact hpending p (List.mem_cons_of_mem _ hp)
    · trivial
  | .items ns file dir items :: rest, hpending =>
    have hitems : ItemsNamed items := hpending _ List.mem_cons_self
    refine ⟨?_, hacc.append (ModulesNamed.cons hitems.ownItems modulesNamed_nil)⟩
    intro p hp
    rcases List.mem_append.1 hp with hp | hp
    · exact childModules_named t ns file dir hitems p hp
    · exact hpending p (List.mem_cons_of_mem _ hp)

/-- **A run** of reading steps keeps the state named. -/
theorem advance_named (ht : FilesAscii t) (n : Nat) {s : LoadState} (h : s.Named) :
    (s.advance t n).Named := by
  -- on the steps left, one `loadStep` at a time
  induction n generalizing s with
  | zero => rwa [LoadState.advance_zero]
  | succ n ih =>
    match s, h with
    | .done r, h => rwa [LoadState.advance_done]
    | .reading pending acc, h =>
      rw [LoadState.advance_succ_reading]
      exact ih (loadStep_named ht h)

theorem loadStart_named (entry crateName : String) : (loadStart entry crateName).Named :=
  ⟨by simp [Pending.Named], modulesNamed_nil⟩

/-- **A module tree read from files is named by ASCII identifiers** when every file that can be
read has ASCII identifiers, whatever the number of steps the reading takes to end. -/
theorem finished_named (ht : FilesAscii t) {entry crateName : String} {n : Nat}
    {tree : LoadedTree} (h : (loadStart entry crateName).advance t n = .done (.ok tree)) :
    ModulesNamed tree.modules := by
  have hrun := advance_named ht n (loadStart_named entry crateName)
  rw [h] at hrun
  exact hrun

/-! ### Crates read from ASCII sources -/

/-- The module lists of a crate read from texts whose identifiers are ASCII: the module tree of
one source text, or the modules of a reading of files that ends, in any number of steps, when
every readable file has ASCII identifiers. -/
inductive AsciiSourced : List Module → Prop
  | ofSource {file text crateName : String} {modules : List Module} :
      IdentsAscii text → modulesOfSource file text crateName = .ok modules →
      AsciiSourced modules
  | load {t : FileTree} {entry crateName : String} {n : Nat} {tree : LoadedTree} :
      FilesAscii t → (loadStart entry crateName).advance t n = .done (.ok tree) →
      AsciiSourced tree.modules

theorem AsciiSourced.named {modules : List Module} (h : AsciiSourced modules) :
    ModulesNamed modules := by
  cases h with
  | ofSource hascii hsrc => exact modulesOfSource_named hascii hsrc
  | load ht hload => exact finished_named ht hload

/-- The trees that `loadTree` reads from files with ASCII identifiers are ASCII-sourced: they
end a reading within its `2 * moduleLimit` steps. -/
theorem AsciiSourced.ofLoadTree {t : FileTree} {entry crateName : String} {tree : LoadedTree}
    (ht : FilesAscii t) (h : loadTree t entry crateName = .ok tree) :
    AsciiSourced tree.modules :=
  .load ht (advance_of_loadTree_eq_ok h)

end Augment.Source
