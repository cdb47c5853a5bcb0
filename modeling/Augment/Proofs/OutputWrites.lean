import Augment.OutputDir
import Augment.Proofs.DirectoryEntries
import Augment.Proofs.PatternCache

/-!
# Writing an output directory

A run into an output directory (`OutputDir.emit`) writes the generated files, then one aggregate
per module, then removes the stale files. This module follows the writes.

`Written t₀ L d W o t` says that the run has written the entries `W`, names with texts and no
name twice, into the directory `d` at the location `L` of the first tree `t₀` (`DirAt`): the
output directory records the kept paths and the counts, each entry of the directory holds what
was written to it or what it held, and nothing else changed. The statements below are derived
from the step lemmas of one write:

* `Written.write_ok`, `Written.write_dir`: writing an entry not written yet extends `W`, unless a
  directory stands there, and then the write fails and changes nothing;
* `Written.emitSources`: the generated files are all written, each recorded among the includes of
  its namespace, which `namespaceOf_generated` reads back from its name; or one of them stands
  where a directory is, and the run has recorded that failure;
* `Written.writeAggregates`: each module's aggregate is written with the module's includes, or
  the run fails at one that stands where a directory is; for distinct namespaces, since
  `Written.writeAggregate_twice` shows that a namespace written twice ends with the bare header.
-/

namespace Augment

open Augment.Files

/-! ### Running file work -/

namespace FileWork

variable {α β : Type} {x : FileWork α} {f : α → FileWork β} {t t' : FileTree}

theorem run_bind_ok {a : α} (h : x.run.run t = (.ok a, t')) :
    (x >>= f).run.run t = (f a).run.run t' := by
  rw [ExceptT.run_bind, StateT.run_bind, h]
  rfl

theorem run_bind_error {e : ProjectError} (h : x.run.run t = (.error e, t')) :
    (x >>= f).run.run t = (.error e, t') := by
  rw [ExceptT.run_bind, StateT.run_bind, h]
  rfl

@[simp]
theorem run_get_bind (f : FileTree → FileWork α) (t : FileTree) :
    ((get : FileWork FileTree) >>= f).run.run t = (f t).run.run t := rfl

/-- One step of a fold of tree work that always goes on. -/
theorem run_foldlM_cons_state (g : β → α → StateM FileTree β) (o : β)
    (x : α) (xs : List α) (t : FileTree) :
    ((x :: xs).foldlM g o).run t = (xs.foldlM g ((g o x).run t).1).run ((g o x).run t).2 :=
  rfl

/-- A fold of file work whose first step succeeds goes on from what that step left. -/
theorem run_foldlM_cons_ok {g : β → α → FileWork β} {o o₁ : β} {x : α} {t₁ : FileTree}
    (xs : List α) (h : (g o x).run.run t = (.ok o₁, t₁)) :
    ((x :: xs).foldlM g o).run.run t = (xs.foldlM g o₁).run.run t₁ := by
  rw [List.foldlM_cons]
  exact run_bind_ok h

/-- A fold of file work whose first step fails stops there. -/
theorem run_foldlM_cons_error {g : β → α → FileWork β} {o : β} {x : α} {t₁ : FileTree}
    {e : ProjectError} (xs : List α)
    (h : (g o x).run.run t = (.error e, t₁)) :
    ((x :: xs).foldlM g o).run.run t = (.error e, t₁) := by
  rw [List.foldlM_cons]
  exact run_bind_error h

end FileWork

/-! ### The steps of a run -/

/-- A lookup after the paths of one namespace are replaced. -/
theorem lookup_map_update (l : List (String × List String)) (ns k : String) (x : List String) :
    (l.map fun (n, ps) => if n == ns then (n, x) else (n, ps)).lookup k =
      if k = ns then (l.lookup k).map fun _ => x else l.lookup k := by
  induction l with
  | nil => simp
  | cons e l ih =>
    obtain ⟨n, ps⟩ := e
    simp only [beq_iff_eq] at ih ⊢
    by_cases hk : k = n
    · subst hk
      by_cases hn : k = ns <;> simp [hn]
    · have hne : (k == n) = false := beq_false_of_ne hk
      by_cases hn : n = ns
      · subst hn
        simp [List.lookup_cons, hne, hk, ih]
      · simp [List.lookup_cons, hne, hn, ih]

namespace OutputDir

/-- One write to a resolved file location: an entry that already holds the text is kept, a
directory fails the run, and any other entry gets the text. -/
theorem write_run {o : OutputDir} {t : FileTree} {p : String} {l : List String}
    (h : t.resolve p = .ok ⟨l, false⟩) (text : String) :
    (o.write p text).run.run t =
      if t.get? l = some (.file text) then
        (.ok { o with kept := o.kept ++ [p],
                      report := { o.report with unchanged := o.report.unchanged + 1 } }, t)
      else if t.get? l = some .dir then (.error (.io p .isDirectory), t)
      else
        (.ok { o with kept := o.kept ++ [p],
                      report := { o.report with written := o.report.written + 1 } },
          t.set l (.file text)) := by
  simp only [write, FileWork.run_get_bind, FileTree.read_of_resolve h,
    FileTree.write_of_resolve h]
  cases hget : t.get? l with
  | none => simp [-bind_pure_comp]; rfl
  | some e =>
    cases e with
    | dir => simp; rfl
    | file old =>
      by_cases hold : old = text
      · simp [hold]; rfl
      · simp [hold, -bind_pure_comp]; rfl

/-- Recording an include adds the path to its namespace's paths. -/
theorem includes_addInclude (o : OutputDir) (ns path k : String) :
    ((o.addInclude ns path).includes.lookup k).getD [] =
      (o.includes.lookup k).getD [] ++ (if k = ns then [path] else []) := by
  unfold addInclude
  cases hns : o.includes.lookup ns with
  | some paths =>
    simp only [lookup_map_update]
    by_cases hk : k = ns
    · subst hk
      simp [hns]
    · simp [hk]
  | none =>
    simp only [List.lookup_append]
    by_cases hk : k = ns
    · subst hk
      simp [hns]
    · simp [List.lookup_cons, beq_false_of_ne hk, hk]

/-- After a failure, a generated file is not written. -/
theorem emitSource_failed {o : OutputDir} (hfail : o.failure.isSome) (f : SourceFile)
    (t : FileTree) : (o.emitSource f).run t = (o, t) := by
  simp [emitSource, hfail]
  rfl

/-- A generated file whose write fails: the failure is recorded. -/
theorem emitSource_of_write_error {o : OutputDir} (hok : o.failure = none) {f : SourceFile}
    {t t' : FileTree} {e : ProjectError}
    (hw : (o.write (join o.dir f.fileName) f.text).run.run t = (.error e, t')) :
    (o.emitSource f).run t = ({ o with failure := some e }, t') := by
  simp [emitSource, hok, hw]
  rfl

/-- A generated file whose write succeeds: its path is recorded among the includes of the
namespace read from its name. -/
theorem emitSource_of_write_ok {o o' : OutputDir} (hok : o.failure = none) {f : SourceFile}
    {t t' : FileTree} {ns : String}
    (hw : (o.write (join o.dir f.fileName) f.text).run.run t = (.ok o', t'))
    (hns : namespaceOf f.fileName = some ns) :
    (o.emitSource f).run t = (o'.addInclude ns (join o.dir f.fileName), t') := by
  simp [emitSource, hok, hw, hns]
  rfl

end OutputDir

/-- After a failure, no generated file is written. -/
theorem foldlM_emitSource_failed {o : OutputDir} (hfail : o.failure.isSome)
    (sources : List SourceFile) (t : FileTree) :
    (sources.foldlM OutputDir.emitSource o).run t = (o, t) := by
  induction sources with
  | nil => rfl
  | cons f fs ih => rw [FileWork.run_foldlM_cons_state, OutputDir.emitSource_failed hfail, ih]

/-! ### Generated file names -/

/-- A name with no dot and no separator: the namespaces and pattern tags of generated files. -/
def PlainName (s : String) : Prop :=
  '.' ∉ s.toList ∧ '/' ∉ s.toList

instance : DecidablePred PlainName := fun s =>
  inferInstanceAs (Decidable ('.' ∉ s.toList ∧ '/' ∉ s.toList))

theorem plainName_tag (p : Pattern) : PlainName p.tag := by
  cases p <;> decide

/-- A generated file named `namespace.tag.rs` after its own namespace and pattern, with a plain
namespace. -/
structure SourceFile.Named (f : SourceFile) : Prop where
  plain : PlainName f.ns
  fileName_eq : f.fileName = f.ns ++ "." ++ f.pattern.tag ++ ".rs"

theorem length_dot : ".".length = 1 := by decide

theorem length_rs : ".rs".length = 3 := by decide

/-- A name longer than `..` and without a separator is an entry name. -/
theorem isEntryName_of_length {n : String} (hsep : '/' ∉ n.toList) (hlen : 2 < n.length) :
    IsEntryName n := by
  refine ⟨hsep, ?_, ?_, ?_⟩ <;> rintro rfl <;> revert hlen <;> decide

theorem endsWith_append (s x : String) : (s ++ x).endsWith x = true := by
  rw [← String.endsWith_toSlice, String.Slice.endsWith_string_iff]
  exact ⟨s.toList, by simp [String.copy_toSlice]⟩

/-- The namespace of a generated file name is read back from it, whatever dots it holds. -/
theorem namespaceOf_generated (ns tag : String) (htag : '.' ∉ tag.toList) :
    namespaceOf (ns ++ "." ++ tag ++ ".rs") = some ns := by
  -- the name without `.rs` is the namespace, a dot and the tag; from its end, the first dot is
  -- the one before the tag
  have hstem : (ns ++ "." ++ tag ++ ".rs").toList =
      (ns.toList ++ '.' :: tag.toList) ++ ['.', 'r', 's'] := by
    simp [String.toList_append]
  have hlen : (ns ++ "." ++ tag ++ ".rs").length - 3 = (ns.toList ++ '.' :: tag.toList).length := by
    rw [← String.length_toList, hstem]
    simp only [List.length_append, List.length_cons, List.length_nil]
    omega
  have hdrop : (tag.toList.reverse ++ ['.'] ++ ns.toList.reverse).dropWhile (· != '.') =
      '.' :: ns.toList.reverse := by
    have hall : ∀ c ∈ tag.toList.reverse, (c != '.') = true := by
      intro c hc
      simp only [List.mem_reverse] at hc
      simp only [bne_iff_ne, ne_eq]
      rintro rfl
      exact htag hc
    rw [List.append_assoc, List.dropWhile_append_of_pos hall]
    simp
  unfold namespaceOf
  rw [if_pos (endsWith_append _ _), hstem, hlen, List.take_left, List.reverse_append,
    List.reverse_cons, hdrop]
  simp

theorem SourceFile.Named.namespaceOf_fileName {f : SourceFile} (hf : f.Named) :
    namespaceOf f.fileName = some f.ns := by
  rw [hf.fileName_eq]
  exact namespaceOf_generated _ _ (plainName_tag f.pattern).1

theorem SourceFile.Named.isEntryName {f : SourceFile} (hf : f.Named) : IsEntryName f.fileName := by
  rw [hf.fileName_eq]
  apply isEntryName_of_length
  · simp [String.toList_append, hf.plain.2, (plainName_tag f.pattern).2]
  · simp only [String.length_append, length_dot, length_rs]
    omega

theorem isEntryName_aggregate {ns : String} (hns : PlainName ns) : IsEntryName (ns ++ ".rs") := by
  apply isEntryName_of_length
  · simp [String.toList_append, hns.2]
  · simp only [String.length_append, length_rs]
    omega

/-- A generated file name holds two dots, an aggregate's name one. -/
theorem SourceFile.Named.fileName_ne_aggregate {f : SourceFile} (hf : f.Named) {ns : String}
    (hns : PlainName ns) : f.fileName ≠ ns ++ ".rs" := by
  intro h
  have hdots := congrArg (fun s => s.toList.count '.') h
  simp [hf.fileName_eq, String.toList_append, List.count_append,
    List.count_eq_zero_of_not_mem hns.1, List.count_eq_zero_of_not_mem hf.plain.1,
    List.count_eq_zero_of_not_mem (plainName_tag f.pattern).1] at hdots

/-! ### What a run records -/

/-- Whether writing the text `w.2` as the entry `w.1` of the directory at `L` changes the tree:
the entry did not hold that text. -/
def Changes (t : FileTree) (L : List String) (w : String × String) : Bool :=
  t.get? (L ++ [w.1]) != some (.file w.2)

/-- The paths of a module's generated files, in the order they are written. -/
def includedPaths (d : String) (sources : List SourceFile) (ns : String) : List String :=
  (sources.filter (·.ns == ns)).map (join d ·.fileName)

theorem includedPaths_cons (d : String) (f : SourceFile) (sources : List SourceFile)
    (ns : String) :
    includedPaths d (f :: sources) ns =
      (if ns = f.ns then [join d f.fileName] else []) ++ includedPaths d sources ns := by
  by_cases hns : ns = f.ns
  · subst hns
    simp [includedPaths]
  · simp [includedPaths, hns, Ne.symm hns]

/-! ### The invariant of a run's writes -/

/-- The path `dir` names the directory at `loc` of the tree, whose entries have entry names. -/
structure DirAt (t : FileTree) (dir : String) (loc : List String) : Prop where
  resolves : ∃ b, t.resolve dir = .ok ⟨loc, b⟩
  isDir : t.get? loc = some .dir
  entryNames : ∀ n, t.get? (loc ++ [n]) ≠ none → IsEntryName n

/-- A run that has written the entries `W` (names with texts, no name twice) into the directory
at `L` of `t₀`: what the output directory records, and what the tree holds. -/
structure Written (t₀ : FileTree) (L : List String) (d : String) (W : List (String × String))
    (o : OutputDir) (t : FileTree) : Prop where
  dir : o.dir = d
  failure : o.failure = none
  kept : o.kept = W.map (join d ·.1)
  written : o.report.written = W.countP (Changes t₀ L)
  unchanged : o.report.unchanged = W.countP (fun w => !Changes t₀ L w)
  removed : o.report.removed = 0
  cwd : t.cwd = t₀.cwd
  entry : ∀ n, t.get? (L ++ [n]) = ((W.lookup n).map .file).or (t₀.get? (L ++ [n]))
  frame : ∀ l, (∀ n, l ≠ L ++ [n]) → t.get? l = t₀.get? l
  notDir : ∀ w ∈ W, t₀.get? (L ++ [w.1]) ≠ some .dir

namespace Written

variable {t₀ t : FileTree} {L : List String} {d : String} {W : List (String × String)}
  {o : OutputDir}

/-- A fresh output directory has written nothing. -/
theorem start (t₀ : FileTree) (L : List String) (d : String) :
    Written t₀ L d [] { dir := d } t₀ where
  dir := rfl
  failure := rfl
  kept := rfl
  written := rfl
  unchanged := rfl
  removed := rfl
  cwd := rfl
  entry _ := by simp
  frame _ _ := rfl
  notDir _ h := by cases h

/-- A written run changes no directory. -/
theorem get?_eq_dir_iff (h : Written t₀ L d W o t) (l : List String) :
    t.get? l = some .dir ↔ t₀.get? l = some .dir := by
  by_cases hl : ∃ n, l = L ++ [n]
  · obtain ⟨n, rfl⟩ := hl
    rw [h.entry n]
    cases hw : W.lookup n with
    | none => simp
    | some x => simpa using h.notDir _ (List.mem_of_lookup_eq_some hw)
  · rw [h.frame l fun n hn => hl ⟨n, hn⟩]

theorem resolve_join (h : Written t₀ L d W o t) (hdir : DirAt t₀ d L) {n : String}
    (hn : IsEntryName n) : t.resolve (join d n) = .ok ⟨L ++ [n], false⟩ := by
  obtain ⟨b, hres⟩ := hdir.resolves
  exact FileTree.resolve_congr (fun l => (h.get?_eq_dir_iff l).symm) h.cwd
    (FileTree.resolve_join hres hdir.isDir hn)

/-- An entry the run has not written holds what it held before the run. -/
theorem get?_of_not_mem (h : Written t₀ L d W o t) {n : String} (hfresh : n ∉ W.map (·.1)) :
    t.get? (L ++ [n]) = t₀.get? (L ++ [n]) := by
  rw [h.entry n, List.lookup_eq_none_iff_not_mem.2 hfresh]
  rfl

theorem notDir_append (h : Written t₀ L d W o t) {n : String} (text : String)
    (hd : t₀.get? (L ++ [n]) ≠ some .dir) :
    ∀ w ∈ W ++ [(n, text)], t₀.get? (L ++ [w.1]) ≠ some .dir := by
  intro w hw
  rcases List.mem_append.1 hw with hw | hw
  · exact h.notDir w hw
  · rw [List.mem_singleton.1 hw]
    exact hd

/-- A tree that holds a text at the entry `n`, not written yet, and agrees with `t` elsewhere holds
at each entry what the run holds after it writes that text at `n`. -/
theorem entry_append (h : Written t₀ L d W o t) {n : String} (hfresh : n ∉ W.map (·.1))
    {text : String} {t' : FileTree} (hnew : t'.get? (L ++ [n]) = some (.file text))
    (hrest : ∀ l, l ≠ L ++ [n] → t'.get? l = t.get? l) (m : String) :
    t'.get? (L ++ [m]) = (((W ++ [(n, text)]).lookup m).map .file).or (t₀.get? (L ++ [m])) := by
  rw [List.lookup_append_singleton hfresh]
  by_cases hm : m = n
  · subst hm
    simp [hnew]
  · rw [hrest _ (by simpa using hm), h.entry m]
    simp [hm]

/-- The invariant does not look at the includes. -/
theorem setIncludes (h : Written t₀ L d W o t) (x : List (String × List String)) :
    Written t₀ L d W { o with includes := x } t :=
  ⟨h.dir, h.failure, h.kept, h.written, h.unchanged, h.removed, h.cwd, h.entry, h.frame,
    h.notDir⟩

theorem addInclude (h : Written t₀ L d W o t) (ns path : String) :
    Written t₀ L d W (o.addInclude ns path) t := by
  unfold OutputDir.addInclude
  split
  · exact h.setIncludes _
  · exact h.setIncludes _

theorem setDiagnostics (h : Written t₀ L d W o t)
    (ds : List Diagnostic) :
    Written t₀ L d W { o with report := { o.report with diagnostics := ds } } t :=
  ⟨h.dir, h.failure, h.kept, h.written, h.unchanged, h.removed, h.cwd, h.entry, h.frame,
    h.notDir⟩

section Step

variable (h : Written t₀ L d W o t) (hdir : DirAt t₀ d L) {n : String} (hn : IsEntryName n)
  (hfresh : n ∉ W.map (·.1)) (text : String)
include h hdir hn hfresh

/-- Writing over a directory fails, and changes nothing. -/
theorem write_dir (hd : t₀.get? (L ++ [n]) = some .dir) :
    (o.write (join o.dir n) text).run.run t = (.error (.io (join d n) .isDirectory), t) := by
  rw [h.dir, OutputDir.write_run (h.resolve_join hdir hn), h.get?_of_not_mem hfresh, hd]
  simp

/-- Writing a new entry where no directory is: the run has written one entry more. -/
theorem write_ok (hd : t₀.get? (L ++ [n]) ≠ some .dir) :
    ∃ o' t', (o.write (join o.dir n) text).run.run t = (.ok o', t') ∧
      o'.includes = o.includes ∧
      Written t₀ L d (W ++ [(n, text)]) o' t' := by
  rw [h.dir, OutputDir.write_run (h.resolve_join hdir hn), h.get?_of_not_mem hfresh, if_neg hd]
  by_cases hsame : t₀.get? (L ++ [n]) = some (.file text)
  · -- the entry already holds the text: it is kept as it is
    rw [if_pos hsame]
    refine ⟨_, _, rfl, rfl, ⟨h.dir, h.failure, by simp [h.kept], ?_, ?_, h.removed, h.cwd,
      h.entry_append hfresh (by rw [h.get?_of_not_mem hfresh, hsame]) (fun _ _ => rfl),
      h.frame, h.notDir_append text hd⟩⟩
    · simp [h.written, Changes, hsame]
    · simp [h.unchanged, Changes, hsame]
  · -- the entry is written
    rw [if_neg hsame]
    refine ⟨_, _, rfl, rfl, ⟨h.dir, h.failure, by simp [h.kept], ?_, ?_, h.removed,
      by simp [h.cwd],
      h.entry_append hfresh (FileTree.get?_set _ _ _ (by simp))
        (fun l hl => FileTree.get?_set_of_ne _ hl),
      fun l hl => ?_, h.notDir_append text hd⟩⟩
    · simp [h.written, Changes, hsame]
    · simp [h.unchanged, Changes, hsame]
    · rw [FileTree.get?_set_of_ne _ (hl n), h.frame l hl]

end Step

end Written

/-! ### Generated files -/

namespace Written

variable {t₀ t : FileTree} {L : List String} {d : String} {W : List (String × String)}
  {o : OutputDir}

section EmitSource

variable (h : Written t₀ L d W o t) (hdir : DirAt t₀ d L) {f : SourceFile} (hf : f.Named)
  (hfresh : f.fileName ∉ W.map (·.1))
include h hdir hf hfresh

/-- A generated file over a directory: the failure is recorded, and the tree is unchanged. -/
theorem emitSource_dir (hd : t₀.get? (L ++ [f.fileName]) = some .dir) :
    (o.emitSource f).run t =
      ({ o with failure := some (.io (join d f.fileName) .isDirectory) }, t) :=
  OutputDir.emitSource_of_write_error h.failure (h.write_dir hdir hf.isEntryName hfresh f.text hd)

/-- **One generated file**, where no directory is: it is written and its path is recorded among
the includes of its namespace. -/
theorem emitSource_ok (hd : t₀.get? (L ++ [f.fileName]) ≠ some .dir) :
    ∃ o' t', (o.emitSource f).run t = (o', t') ∧
      Written t₀ L d (W ++ [(f.fileName, f.text)]) o' t' ∧
      ∀ k, (o'.includes.lookup k).getD [] =
        (o.includes.lookup k).getD [] ++ (if k = f.ns then [join d f.fileName] else []) := by
  obtain ⟨o', t', hw, hinc, hW⟩ := h.write_ok hdir hf.isEntryName hfresh f.text hd
  refine ⟨o'.addInclude f.ns (join d f.fileName), t', ?_, hW.addInclude _ _, fun k => ?_⟩
  · rw [← h.dir]
    exact OutputDir.emitSource_of_write_ok h.failure hw hf.namespaceOf_fileName
  · rw [OutputDir.includes_addInclude, hinc]

end EmitSource

/-- **All generated files**: the run writes them all and records their includes unless one of
them stands where a directory is, and then it has recorded a failure. -/
theorem emitSources (h : Written t₀ L d W o t) (hdir : DirAt t₀ d L) {sources : List SourceFile}
    (hnamed : ∀ f ∈ sources, f.Named)
    (hnodup : (W.map (·.1) ++ sources.map (·.fileName)).Nodup) {o' : OutputDir} {t' : FileTree}
    (hrun : (sources.foldlM OutputDir.emitSource o).run t = (o', t')) :
    (o'.failure = none ↔ ∀ f ∈ sources, t₀.get? (L ++ [f.fileName]) ≠ some .dir) ∧
      (o'.failure = none →
        Written t₀ L d (W ++ sources.map fun f => (f.fileName, f.text)) o' t' ∧
        ∀ k, (o'.includes.lookup k).getD [] =
          (o.includes.lookup k).getD [] ++ includedPaths d sources k) := by
  induction sources generalizing W o t with
  | nil =>
    obtain ⟨rfl, rfl⟩ := Prod.mk.inj hrun
    exact ⟨by simp [h.failure],
      fun _ => ⟨by simpa using h, fun k => by simp [includedPaths]⟩⟩
  | cons f fs ih =>
    have hf := hnamed f (List.mem_cons_self ..)
    have hfresh : f.fileName ∉ W.map (·.1) := fun hmem =>
      (List.nodup_append.1 hnodup).2.2 _ hmem _ (List.mem_cons_self ..) rfl
    rw [FileWork.run_foldlM_cons_state] at hrun
    by_cases hd : t₀.get? (L ++ [f.fileName]) = some .dir
    · -- the failure is recorded, and nothing more is written
      rw [h.emitSource_dir hdir hf hfresh hd, foldlM_emitSource_failed (by simp)] at hrun
      obtain ⟨rfl, rfl⟩ := Prod.mk.inj hrun
      exact ⟨by simp [hd], fun hnone => by simp at hnone⟩
    · obtain ⟨o₁, t₁, h₁, hW₁, hinc₁⟩ := h.emitSource_ok hdir hf hfresh hd
      rw [h₁] at hrun
      have hnodup₁ :
          ((W ++ [(f.fileName, f.text)]).map (·.1) ++ fs.map (·.fileName)).Nodup := by
        simpa using hnodup
      obtain ⟨hiff, hgood⟩ :=
        ih hW₁ (fun g hg => hnamed g (List.mem_cons_of_mem _ hg)) hnodup₁ hrun
      refine ⟨by simp [hiff, hd], fun hnone => ?_⟩
      obtain ⟨hW, hinc⟩ := hgood hnone
      refine ⟨by simpa using hW, fun k => ?_⟩
      rw [hinc k, hinc₁ k, includedPaths_cons, List.append_assoc]

/-! ### Aggregates -/

section Aggregate

variable (h : Written t₀ L d W o t) (hdir : DirAt t₀ d L) {ns : String} (hns : PlainName ns)
  (hfresh : ns ++ ".rs" ∉ W.map (·.1))
include h hdir hns hfresh

/-- A module's aggregate over a directory fails, and changes nothing. -/
theorem writeAggregate_dir (hd : t₀.get? (L ++ [ns ++ ".rs"]) = some .dir) :
    (o.writeAggregate ns).run.run t = (.error (.io (join d (ns ++ ".rs")) .isDirectory), t) :=
  (h.setIncludes (o.includes.filter (·.1 != ns))).write_dir hdir
    (isEntryName_aggregate hns) hfresh (aggregate ((o.includes.lookup ns).getD [])) hd

/-- **One aggregate**, where no directory is: it is written with the includes recorded for its
module, and those includes are dropped. -/
theorem writeAggregate_ok (hd : t₀.get? (L ++ [ns ++ ".rs"]) ≠ some .dir) :
    ∃ o' t', (o.writeAggregate ns).run.run t = (.ok o', t') ∧
      o'.includes = o.includes.filter (·.1 != ns) ∧
      Written t₀ L d (W ++ [(ns ++ ".rs", aggregate ((o.includes.lookup ns).getD []))])
        o' t' :=
  (h.setIncludes (o.includes.filter (·.1 != ns))).write_ok hdir
    (isEntryName_aggregate hns) hfresh (aggregate ((o.includes.lookup ns).getD [])) hd

end Aggregate

/-- **All aggregates**: the run writes one per namespace, with the includes recorded for it,
unless one of them stands where a directory is, and then it fails. -/
theorem writeAggregates (h : Written t₀ L d W o t) (hdir : DirAt t₀ d L) {nss : List String}
    (hplain : ∀ ns ∈ nss, PlainName ns) (hnodup : (W.map (·.1) ++ nss.map (· ++ ".rs")).Nodup)
    {P : String → List String} (hinc : ∀ ns ∈ nss, (o.includes.lookup ns).getD [] = P ns)
    {res : Except ProjectError OutputDir} {t' : FileTree}
    (hrun : (nss.foldlM OutputDir.writeAggregate o).run.run t = (res, t')) :
    ((∃ o', res = .ok o') ↔ ∀ ns ∈ nss, t₀.get? (L ++ [ns ++ ".rs"]) ≠ some .dir) ∧
      ∀ o', res = .ok o' →
        Written t₀ L d (W ++ nss.map fun ns => (ns ++ ".rs", aggregate (P ns))) o' t' := by
  induction nss generalizing W o t with
  | nil =>
    obtain ⟨rfl, rfl⟩ := Prod.mk.inj hrun
    exact ⟨by simp, fun o' ho' => by cases ho'; simpa using h⟩
  | cons ns rest ih =>
    have hns := hplain ns (List.mem_cons_self ..)
    have hfresh : ns ++ ".rs" ∉ W.map (·.1) := fun hmem =>
      (List.nodup_append.1 hnodup).2.2 _ hmem _ (List.mem_cons_self ..) rfl
    by_cases hd : t₀.get? (L ++ [ns ++ ".rs"]) = some .dir
    · -- the run stops with the failure
      rw [FileWork.run_foldlM_cons_error rest (h.writeAggregate_dir hdir hns hfresh hd)] at hrun
      obtain ⟨rfl, rfl⟩ := Prod.mk.inj hrun
      exact ⟨by simp [hd], fun o' ho' => by cases ho'⟩
    · obtain ⟨o₁, t₁, h₁, hinc₁, hW₁⟩ := h.writeAggregate_ok hdir hns hfresh hd
      rw [FileWork.run_foldlM_cons_ok rest h₁] at hrun
      have hnodup₁ :
          ((W ++ [(ns ++ ".rs", aggregate ((o.includes.lookup ns).getD []))]).map (·.1) ++
            rest.map (· ++ ".rs")).Nodup := by
        simpa using hnodup
      -- the namespaces still to come keep their includes: each differs from `ns`
      have hrest : ∀ k ∈ rest, (o₁.includes.lookup k).getD [] = P k := by
        intro k hk
        have hkns : k ≠ ns := by
          rintro rfl
          rw [List.map_cons] at hnodup
          exact (List.nodup_cons.1 (List.nodup_append.1 hnodup).2.1).1 (List.mem_map_of_mem hk)
        rw [hinc₁, List.lookup_filter_ne, if_neg (by simpa using hkns)]
        exact hinc k (List.mem_cons_of_mem _ hk)
      obtain ⟨hiff, hgood⟩ :=
        ih hW₁ (fun k hk => hplain k (List.mem_cons_of_mem _ hk)) hnodup₁ hrest hrun
      rw [hinc ns (List.mem_cons_self ..)] at hgood
      exact ⟨by simp [hiff, hd], fun o' ho' => by simpa using hgood o' ho'⟩

/-- **A namespace aggregated twice loses its includes.** The first aggregate consumes the
includes recorded for the namespace, so the second writes the bare header over it. -/
theorem writeAggregate_twice (h : Written t₀ L d W o t) (hdir : DirAt t₀ d L) {ns : String}
    (hns : PlainName ns) (hfresh : ns ++ ".rs" ∉ W.map (·.1))
    (hd : t₀.get? (L ++ [ns ++ ".rs"]) ≠ some .dir) :
    ∃ o₁ t₁ o₂ t₂, (o.writeAggregate ns).run.run t = (.ok o₁, t₁) ∧
      (o₁.writeAggregate ns).run.run t₁ = (.ok o₂, t₂) ∧
      t₂.get? (L ++ [ns ++ ".rs"]) = some (.file (aggregate [])) := by
  obtain ⟨o₁, t₁, h₁, hinc₁, hW₁⟩ := h.writeAggregate_ok hdir hns hfresh hd
  -- the first write left the namespace without includes
  have hnone : o₁.includes.lookup ns = none := by
    rw [hinc₁, List.lookup_filter_ne]
    simp
  have hres := hW₁.resolve_join hdir (isEntryName_aggregate hns)
  -- and its entry holds the first aggregate, a file
  have hfile : t₁.get? (L ++ [ns ++ ".rs"]) =
      some (.file (aggregate ((o.includes.lookup ns).getD []))) := by
    rw [hW₁.entry, List.lookup_append_singleton hfresh]
    simp
  have hsecond : (o₁.writeAggregate ns).run.run t₁ =
      ({ o₁ with includes := o₁.includes.filter (·.1 != ns) }.write
        (join d (ns ++ ".rs")) (aggregate [])).run.run t₁ := by
    rw [OutputDir.writeAggregate, hnone, hW₁.dir]
    rfl
  rw [OutputDir.write_run hres, hfile] at hsecond
  by_cases hsame : aggregate ((o.includes.lookup ns).getD []) = aggregate []
  · -- the first aggregate was already the bare header
    rw [if_pos (by rw [hsame])] at hsecond
    exact ⟨o₁, t₁, _, _, h₁, hsecond, by rw [hfile, hsame]⟩
  · rw [if_neg (by simpa using hsame), if_neg (by simp)] at hsecond
    exact ⟨o₁, t₁, _, _, h₁, hsecond, FileTree.get?_set _ _ _ (by simp)⟩

end Written

end Augment
