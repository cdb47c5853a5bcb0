import Augment.Proofs.OutputWrites

/-!
# The output directory after a run

A run into the directory `d` at the location `L` of a tree (`DirAt`) writes `runWrites`: each
generated file with its text, then each module's aggregate, which includes the module's
generated files in the order they were written. Then it removes the stale entries (`Stale`: the
`.rs` entries that it does not write).

* `emit_run`: a run finishes exactly when it is `Unblocked` (it writes over no directory, and no
  stale entry is a directory); then it `Leaves` every entry of the directory as `entryAfter`
  says and the rest of the tree as it was, and counts the writes that changed an entry, the
  other writes, and the stale entries.
* `emit_leaves_current_output`: so the directory holds exactly the current output.
* `emit_rerun_changes_nothing`: a second run with the same output, on what a finished run left,
  finishes, writes nothing, removes nothing and changes no location.

The namespaces of a run are distinct (`EmitInputs`). A namespace listed twice has its aggregate
written twice, and the second time without includes, which the first write consumed
(`Written.writeAggregate_twice`).
-/

namespace Augment

open Augment.Files

/-! ### Removing stale files -/

/-- A stale entry for a run that writes `W`: an `.rs` entry that it does not write. -/
def Stale (W : List (String × String)) (n : String) : Bool :=
  extension? n == some "rs" && !(W.map (·.1)).contains n

/-- What an entry of the directory holds after a run that writes `W`: the text written there;
else nothing for an `.rs` entry, which is stale; else what it held. -/
def entryAfter (t : FileTree) (L : List String) (W : List (String × String)) (n : String) :
    Option Entry :=
  match W.lookup n with
  | some text => some (.file text)
  | none => if extension? n = some "rs" then none else t.get? (L ++ [n])

theorem stale_eq_true_iff {W : List (String × String)} {n : String} :
    Stale W n = true ↔ extension? n = some "rs" ∧ n ∉ W.map (·.1) := by
  simp [Stale]

namespace OutputDir

theorem removeStale_run {o : OutputDir} {r : EmitReport} {n : String} {t : FileTree}
    {l : List String} (hres : t.resolve (join o.dir n) = .ok ⟨l, false⟩) :
    (o.removeStale r n).run.run t =
      if extension? n == some "rs" && !(o.kept.any (samePath (join o.dir n))) then
        match t.get? l with
        | some (.file _) => (.ok { r with removed := r.removed + 1 }, t.erase l)
        | some .dir => (.error (.io (join o.dir n) .isDirectory), t)
        | none => (.error (.io (join o.dir n) .notFound), t)
      else (.ok r, t) := by
  unfold removeStale
  by_cases hc : (extension? n == some "rs" && !(o.kept.any (samePath (join o.dir n)))) = true
  · rw [if_pos hc, if_pos hc, FileWork.run_get_bind, FileTree.removeFile_of_resolve hres]
    rcases t.get? l with _ | _ | _ <;> rfl
  · rw [if_neg hc, if_neg hc]
    rfl

/-- A path is kept by the run exactly when it is one of the entries written. -/
theorem kept_any_samePath {W : List (String × String)} {d n : String}
    (hW : ∀ w ∈ W, IsEntryName w.1) (hn : IsEntryName n) :
    (W.map (join d ·.1)).any (samePath (join d n)) = (W.map (·.1)).contains n := by
  rw [Bool.eq_iff_iff]
  simp only [List.any_map, List.any_eq_true, Function.comp, samePath, beq_iff_eq,
    List.contains_iff_mem, List.mem_map]
  constructor
  · rintro ⟨w, hw, hsame⟩
    exact ⟨w, hw, ((components_join_inj d hn (hW w hw)).1 hsame).symm⟩
  · rintro ⟨w, hw, rfl⟩
    exact ⟨w, hw, rfl⟩

theorem prune_run_of_list {o : OutputDir} {t : FileTree} {names : List String}
    (hlist : t.list o.dir = .ok names) :
    o.prune.run.run t = (names.foldlM o.removeStale o.report).run.run t := by
  unfold prune
  rw [FileWork.run_get_bind, hlist]
  rfl

end OutputDir

section Removal

variable {t₀ t : FileTree} {L : List String} {d : String} {W : List (String × String)}
  {o : OutputDir}

/-- **One name**: in a tree with the directories of `t₀`, the entry `m` of the directory is
removed and counted when it is a stale file; a stale directory fails the run; any other entry is
left alone. -/
theorem removeStale_step (hodir : o.dir = d) (hkept : o.kept = W.map (join d ·.1))
    (hW : ∀ w ∈ W, IsEntryName w.1) (hdir : DirAt t₀ d L) {tk : FileTree}
    (hdirs : ∀ l, tk.get? l = some .dir ↔ t₀.get? l = some .dir) (hcwd : tk.cwd = t₀.cwd)
    (r : EmitReport) {m : String} (hm : IsEntryName m) :
    (o.removeStale r m).run.run tk =
      if Stale W m then
        match tk.get? (L ++ [m]) with
        | some (.file _) => (.ok { r with removed := r.removed + 1 }, tk.erase (L ++ [m]))
        | some .dir => (.error (.io (join o.dir m) .isDirectory), tk)
        | none => (.error (.io (join o.dir m) .notFound), tk)
      else (.ok r, tk) := by
  -- the name resolves in `tk` as in `t₀`, since the two have the same directories
  have hres : tk.resolve (join o.dir m) = .ok ⟨L ++ [m], false⟩ := by
    obtain ⟨b, hd⟩ := hdir.resolves
    rw [hodir]
    exact FileTree.resolve_congr (fun l => (hdirs l).symm) hcwd
      (FileTree.resolve_join hd hdir.isDir hm)
  have hcond : (extension? m == some "rs" && !(o.kept.any (OutputDir.samePath (join o.dir m)))) =
      Stale W m := by
    rw [hkept, hodir, OutputDir.kept_any_samePath hW hm]
    rfl
  rw [OutputDir.removeStale_run hres, hcond]

/-- **Removing stale entries**, one name after the other: each stale name is removed unless it
is a directory, and then the run fails. -/
theorem foldlM_removeStale (hodir : o.dir = d) (hkept : o.kept = W.map (join d ·.1))
    (hW : ∀ w ∈ W, IsEntryName w.1) (hdir : DirAt t₀ d L) (names : List String)
    (hnodup : names.Nodup) {tk : FileTree}
    (hnames : ∀ n ∈ names, IsEntryName n ∧ tk.get? (L ++ [n]) ≠ none)
    (hdirs : ∀ l, tk.get? l = some .dir ↔ t₀.get? l = some .dir) (hcwd : tk.cwd = t₀.cwd)
    {r : EmitReport} {res : Except ProjectError EmitReport} {t' : FileTree}
    (hrun : (names.foldlM o.removeStale r).run.run tk = (res, t')) :
    ((∃ r', res = .ok r') ↔ ∀ n ∈ names, Stale W n → tk.get? (L ++ [n]) ≠ some .dir) ∧
      ∀ r', res = .ok r' →
        r' = { r with removed := r.removed + (names.filter (Stale W)).length } ∧
        (∀ n, t'.get? (L ++ [n]) =
          if n ∈ names ∧ Stale W n then none else tk.get? (L ++ [n])) ∧
        (∀ l, (∀ n, l ≠ L ++ [n]) → t'.get? l = tk.get? l) ∧ t'.cwd = tk.cwd := by
  induction names generalizing tk r with
  | nil =>
    obtain ⟨rfl, rfl⟩ := Prod.mk.inj hrun
    exact ⟨by simp, fun r' hr' => by cases hr'; simp⟩
  | cons m ms ih =>
    obtain ⟨hm, hpresent⟩ := hnames m (List.mem_cons_self ..)
    have hmms : m ∉ ms := (List.nodup_cons.1 hnodup).1
    have hstep := removeStale_step hodir hkept hW hdir hdirs hcwd r hm
    have hrest : ∀ n ∈ ms, IsEntryName n ∧ tk.get? (L ++ [n]) ≠ none :=
      fun n hn => hnames n (List.mem_cons_of_mem _ hn)
    by_cases hs : Stale W m = true
    · cases hget : tk.get? (L ++ [m]) with
      | none => exact absurd hget hpresent
      | some e =>
        cases e with
        | dir =>
          -- a stale directory: the run fails
          rw [if_pos hs, hget] at hstep
          rw [FileWork.run_foldlM_cons_error ms hstep] at hrun
          obtain ⟨rfl, rfl⟩ := Prod.mk.inj hrun
          refine ⟨?_, fun r' hr' => by cases hr'⟩
          simp [hs, hget]
        | file text =>
          -- a stale file: it is removed, and the rest of the names see the tree without it
          rw [if_pos hs, hget] at hstep
          rw [FileWork.run_foldlM_cons_ok ms hstep] at hrun
          have hself : (tk.erase (L ++ [m])).get? (L ++ [m]) = none :=
            FileTree.get?_erase_self (by simp)
          have hother :
              ∀ n, n ≠ m → (tk.erase (L ++ [m])).get? (L ++ [n]) = tk.get? (L ++ [n]) :=
            fun n hn => FileTree.get?_erase_of_ne (by simpa using hn)
          have hdirs' :
              ∀ l, (tk.erase (L ++ [m])).get? l = some .dir ↔ t₀.get? l = some .dir :=
            fun l => (FileTree.get?_erase_eq_dir_iff hget l).trans (hdirs l)
          have hne : ∀ n ∈ ms, n ≠ m := fun n hn hnm => hmms (hnm ▸ hn)
          obtain ⟨hiff, hgood⟩ := ih (List.nodup_cons.1 hnodup).2
            (fun n hn => ⟨(hrest n hn).1, by rw [hother n (hne n hn)]; exact (hrest n hn).2⟩)
            hdirs' hcwd hrun
          refine ⟨?_, fun r' hr' => ?_⟩
          · rw [hiff]
            constructor
            · intro hall n hn hsn
              rcases List.mem_cons.1 hn with rfl | hn
              · simp [hget]
              · rw [← hother n (hne n hn)]
                exact hall n hn hsn
            · intro hall n hn hsn
              rw [hother n (hne n hn)]
              exact hall n (List.mem_cons_of_mem _ hn) hsn
          · obtain ⟨hr, hentries, hframe, hcwd'⟩ := hgood r' hr'
            refine ⟨by simp [hr, hs]; omega, fun n => ?_, fun l hl => ?_, by simp [hcwd']⟩
            · by_cases hn : n = m
              · subst hn
                simp [hentries, hmms, hself, hs]
              · simp [hentries, hother n hn, hn]
            · rw [hframe l hl, FileTree.get?_erase_of_ne (hl m)]
    · -- not stale: the entry stays
      rw [if_neg hs] at hstep
      rw [FileWork.run_foldlM_cons_ok ms hstep] at hrun
      obtain ⟨hiff, hgood⟩ := ih (List.nodup_cons.1 hnodup).2 hrest hdirs hcwd hrun
      refine ⟨by simp [hiff, hs], fun r' hr' => ?_⟩
      obtain ⟨hr, hentries, hframe, hcwd'⟩ := hgood r' hr'
      refine ⟨by simp [hr, hs], fun n => ?_, hframe, hcwd'⟩
      by_cases hn : n = m
      · subst hn
        simp [hentries, hmms, hs]
      · simp [hentries, hn]

/-- What a finished run that writes `W` into the directory at `L` of `t₀` leaves: each entry of
the directory as `entryAfter` says, and the rest of the tree as it was. -/
structure Leaves (t₀ : FileTree) (L : List String) (W : List (String × String))
    (t : FileTree) : Prop where
  entry : ∀ n, t.get? (L ++ [n]) = entryAfter t₀ L W n
  frame : ∀ l, (∀ n, l ≠ L ++ [n]) → t.get? l = t₀.get? l
  cwd : t.cwd = t₀.cwd

namespace Written

/-- A written entry, or an entry that was there before, has an entry name. -/
theorem isEntryName_of_get? (h : Written t₀ L d W o t) (hdir : DirAt t₀ d L)
    (hW : ∀ w ∈ W, IsEntryName w.1) {n : String} (hn : t.get? (L ++ [n]) ≠ none) :
    IsEntryName n := by
  rw [h.entry n] at hn
  cases hw : W.lookup n with
  | some x => exact hW _ (List.mem_of_lookup_eq_some hw)
  | none =>
    rw [hw] at hn
    exact hdir.entryNames n (by simpa using hn)

/-- A stale entry is not written, so the writes leave it as it was. -/
theorem get?_of_stale (h : Written t₀ L d W o t) {n : String} (hs : Stale W n = true) :
    t.get? (L ++ [n]) = t₀.get? (L ++ [n]) :=
  h.get?_of_not_mem (stale_eq_true_iff.1 hs).2

theorem mem_childrenAt_of_stale (h : Written t₀ L d W o t) {n : String} (hs : Stale W n = true) :
    n ∈ t.childrenAt L ↔ n ∈ t₀.childrenAt L := by
  rw [FileTree.mem_childrenAt, FileTree.mem_childrenAt, h.get?_of_stale hs]

/-- The directory lists as many stale entries after the writes as before them. -/
theorem length_filter_stale (h : Written t₀ L d W o t) :
    ((t.childrenAt L).filter (Stale W)).length = ((t₀.childrenAt L).filter (Stale W)).length := by
  apply List.Perm.length_eq
  rw [List.perm_ext_iff_of_nodup ((FileTree.nodup_childrenAt L).filter _)
    ((FileTree.nodup_childrenAt L).filter _)]
  intro n
  simp only [List.mem_filter]
  constructor
  · rintro ⟨hn, hs⟩
    exact ⟨(h.mem_childrenAt_of_stale hs).1 hn, hs⟩
  · rintro ⟨hn, hs⟩
    exact ⟨(h.mem_childrenAt_of_stale hs).2 hn, hs⟩

/-- Removing the listed stale entries from what the writes left gives `entryAfter`. -/
theorem pruned_entry (h : Written t₀ L d W o t) (n : String) :
    (if n ∈ t.childrenAt L ∧ Stale W n then none else t.get? (L ++ [n])) =
      entryAfter t₀ L W n := by
  unfold entryAfter
  cases hw : W.lookup n with
  | some text =>
    -- a written entry is not stale
    have hwritten : n ∈ W.map (·.1) :=
      List.mem_map_of_mem (f := (·.1)) (List.mem_of_lookup_eq_some hw)
    have hs : Stale W n = false :=
      Bool.eq_false_iff.2 fun hs => (stale_eq_true_iff.1 hs).2 hwritten
    rw [if_neg (by simp [hs]), h.entry n, hw]
    rfl
  | none =>
    have hfresh : n ∉ W.map (·.1) := List.lookup_eq_none_iff_not_mem.1 hw
    rw [h.get?_of_not_mem hfresh]
    by_cases hext : extension? n = some "rs"
    · -- a stale name that the directory does not list holds nothing anyway
      have hs : Stale W n = true := stale_eq_true_iff.2 ⟨hext, hfresh⟩
      by_cases hlisted : n ∈ t.childrenAt L
      · simp [hs, hext, hlisted]
      · have hnone : t.get? (L ++ [n]) = none := by
          simpa [FileTree.mem_childrenAt] using hlisted
        rw [h.get?_of_not_mem hfresh] at hnone
        simp [hs, hext, hlisted, hnone]
    · have hs : Stale W n = false :=
        Bool.eq_false_iff.2 fun hs => hext (stale_eq_true_iff.1 hs).1
      simp [hs, hext]

/-- **Pruning** a written run: the stale entries of the directory, those that were there before
and are not written, are removed, unless one of them is a directory, and then it fails. -/
theorem prune (h : Written t₀ L d W o t) (hdir : DirAt t₀ d L)
    (hW : ∀ w ∈ W, IsEntryName w.1) {res : Except ProjectError EmitReport} {t' : FileTree}
    (hrun : o.prune.run.run t = (res, t')) :
    ((∃ r, res = .ok r) ↔
        ∀ n ∈ t₀.childrenAt L, Stale W n → t₀.get? (L ++ [n]) ≠ some .dir) ∧
      ∀ r, res = .ok r →
        r = { o.report with removed := ((t₀.childrenAt L).filter (Stale W)).length } ∧
        Leaves t₀ L W t' := by
  obtain ⟨b, hres⟩ := hdir.resolves
  have hlist : t.list o.dir = .ok (t.childrenAt L) := by
    rw [h.dir]
    refine FileTree.list_of_resolve
      (FileTree.resolve_congr (fun l => (h.get?_eq_dir_iff l).symm) h.cwd hres) ?_
    rw [h.frame L fun n hn => by simp at hn]
    exact hdir.isDir
  rw [OutputDir.prune_run_of_list hlist] at hrun
  obtain ⟨hiff, hgood⟩ := foldlM_removeStale h.dir h.kept hW hdir (t.childrenAt L)
    (FileTree.nodup_childrenAt L)
    (fun n hn => ⟨h.isEntryName_of_get? hdir hW (FileTree.mem_childrenAt.1 hn),
      FileTree.mem_childrenAt.1 hn⟩)
    h.get?_eq_dir_iff h.cwd hrun
  refine ⟨?_, fun r hr => ?_⟩
  · rw [hiff]
    constructor
    · intro hall n hn hs
      rw [← h.get?_of_stale hs]
      exact hall n ((h.mem_childrenAt_of_stale hs).2 hn) hs
    · intro hall n hn hs
      rw [h.get?_of_stale hs]
      exact hall n ((h.mem_childrenAt_of_stale hs).1 hn) hs
  · obtain ⟨hr, hentries, hframe, hcwd⟩ := hgood r hr
    refine ⟨by rw [hr, h.removed, h.length_filter_stale, Nat.zero_add],
      ⟨fun n => by rw [hentries n, h.pruned_entry n],
        fun l hl => by rw [hframe l hl, h.frame l hl], by rw [hcwd, h.cwd]⟩⟩

end Written

end Removal

/-! ### A whole run -/

/-- The entries a run writes into the directory `d`, by name with their texts: each generated
file, then each module's aggregate. -/
def runWrites (d : String) (sources : List SourceFile) (namespaces : List String) :
    List (String × String) :=
  sources.map (fun f => (f.fileName, f.text)) ++
    namespaces.map fun ns => (ns ++ ".rs", aggregate (includedPaths d sources ns))

/-- What a run is given: generated files named after their namespaces and patterns, no name
twice, and the namespaces of the modules, plain and none twice. -/
structure EmitInputs (sources : List SourceFile) (namespaces : List String) : Prop where
  named : ∀ f ∈ sources, f.Named
  fileNames_nodup : (sources.map (·.fileName)).Nodup
  namespaces_plain : ∀ ns ∈ namespaces, PlainName ns
  namespaces_nodup : namespaces.Nodup

/-- A run can finish: it writes over no directory, and no stale entry is a directory. -/
def Unblocked (t : FileTree) (L : List String) (W : List (String × String)) : Prop :=
  (∀ w ∈ W, t.get? (L ++ [w.1]) ≠ some .dir) ∧
    ∀ n ∈ t.childrenAt L, Stale W n → t.get? (L ++ [n]) ≠ some .dir

theorem append_rs_injective : Function.Injective (· ++ ".rs") := by
  intro a b h
  have hlist := congrArg String.toList h
  simp only [String.toList_append] at hlist
  exact String.toList_inj.1 (List.append_cancel_right hlist)

namespace EmitInputs

variable {sources : List SourceFile} {namespaces : List String}

theorem names_runWrites (d : String) :
    (runWrites d sources namespaces).map (·.1) =
      sources.map (·.fileName) ++ namespaces.map (· ++ ".rs") := by
  simp [runWrites, Function.comp_def]

/-- A run writes no entry twice. -/
theorem nodup_runWrites (hin : EmitInputs sources namespaces) (d : String) :
    ((runWrites d sources namespaces).map (·.1)).Nodup := by
  rw [names_runWrites]
  refine List.nodup_append.2 ⟨hin.fileNames_nodup,
    List.Pairwise.map _ (fun a b hab heq => hab (append_rs_injective heq)) hin.namespaces_nodup,
    ?_⟩
  intro a ha b hb hab
  obtain ⟨f, hf, rfl⟩ := List.mem_map.1 ha
  obtain ⟨ns, hns, rfl⟩ := List.mem_map.1 hb
  exact (hin.named f hf).fileName_ne_aggregate (hin.namespaces_plain ns hns) hab

/-- Every entry a run writes has an entry name. -/
theorem isEntryName_runWrites (hin : EmitInputs sources namespaces) (d : String) :
    ∀ w ∈ runWrites d sources namespaces, IsEntryName w.1 := by
  intro w hw
  rcases List.mem_append.1 hw with hw | hw
  · obtain ⟨f, hf, rfl⟩ := List.mem_map.1 hw
    exact (hin.named f hf).isEntryName
  · obtain ⟨ns, hns, rfl⟩ := List.mem_map.1 hw
    exact isEntryName_aggregate (hin.namespaces_plain ns hns)

end EmitInputs

namespace OutputDir

theorem emit_run_eq (o : OutputDir) (output : PassOutput) (namespaces : List String)
    (t : FileTree) :
    (o.emit output namespaces).run.run t =
      (({ ((output.sources.foldlM emitSource o).run t).1 with
          report := { ((output.sources.foldlM emitSource o).run t).1.report with
                      diagnostics := output.diagnostics } }).finish namespaces).run.run
        ((output.sources.foldlM emitSource o).run t).2 :=
  rfl

theorem finish_of_failure {o : OutputDir} {e : ProjectError} (h : o.failure = some e)
    (namespaces : List String) (t : FileTree) :
    (o.finish namespaces).run.run t = (.error e, t) := by
  simp [finish, h]
  rfl

theorem finish_of_no_failure {o : OutputDir} (h : o.failure = none) (namespaces : List String) :
    o.finish namespaces = namespaces.foldlM writeAggregate o >>= prune := by
  simp [finish, h]

end OutputDir

theorem unblocked_runWrites_iff {t₀ : FileTree} {L : List String} {d : String}
    {sources : List SourceFile} {namespaces : List String} :
    Unblocked t₀ L (runWrites d sources namespaces) ↔
      (∀ f ∈ sources, t₀.get? (L ++ [f.fileName]) ≠ some .dir) ∧
      (∀ ns ∈ namespaces, t₀.get? (L ++ [ns ++ ".rs"]) ≠ some .dir) ∧
      ∀ n ∈ t₀.childrenAt L, Stale (runWrites d sources namespaces) n →
        t₀.get? (L ++ [n]) ≠ some .dir := by
  simp only [Unblocked, runWrites, List.mem_append, List.mem_map, or_imp, forall_and,
    forall_exists_index, and_imp, forall_apply_eq_imp_iff₂, and_assoc]

/-- **A whole run** into the directory `d` at `L`: it succeeds exactly when it is unblocked, and
then every entry of the directory holds what the run wrote there, or nothing when it was stale,
or what it held; nothing outside the directory's entries changes; and the report counts the
writes that changed an entry, the others, and the stale entries. -/
theorem emit_run {t₀ : FileTree} {d : String} {L : List String} (hdir : DirAt t₀ d L)
    {output : PassOutput} {namespaces : List String} (hin : EmitInputs output.sources namespaces)
    {res : Except ProjectError EmitReport} {t : FileTree}
    (hrun : (({ dir := d } : OutputDir).emit output namespaces).run.run t₀ = (res, t)) :
    ((∃ r, res = .ok r) ↔ Unblocked t₀ L (runWrites d output.sources namespaces)) ∧
      ∀ r, res = .ok r →
        Leaves t₀ L (runWrites d output.sources namespaces) t ∧
        r.written = (runWrites d output.sources namespaces).countP (Changes t₀ L) ∧
        r.unchanged =
          (runWrites d output.sources namespaces).countP (fun w => !Changes t₀ L w) ∧
        r.removed =
          ((t₀.childrenAt L).filter (Stale (runWrites d output.sources namespaces))).length := by
  rw [OutputDir.emit_run_eq] at hrun
  rw [unblocked_runWrites_iff]
  -- first the generated files
  obtain ⟨o₁, t₁, hsrc⟩ : ∃ o₁ t₁,
      (output.sources.foldlM OutputDir.emitSource { dir := d }).run t₀ = (o₁, t₁) :=
    ⟨_, _, rfl⟩
  rw [hsrc] at hrun
  have hnodup₁ : (([] : List (String × String)).map (·.1) ++
      output.sources.map (·.fileName)).Nodup := by
    simpa using hin.fileNames_nodup
  obtain ⟨hiff₁, hgood₁⟩ :=
    (Written.start t₀ L d).emitSources hdir hin.named hnodup₁ hsrc
  cases hfail : o₁.failure with
  | some e =>
    -- a generated file stands where a directory is: the run fails before the aggregates
    rw [OutputDir.finish_of_failure (by simpa using hfail)] at hrun
    obtain ⟨rfl, rfl⟩ := Prod.mk.inj hrun
    refine ⟨?_, fun r hr => by cases hr⟩
    have hblocked : ¬ ∀ f ∈ output.sources, t₀.get? (L ++ [f.fileName]) ≠ some .dir := by
      rw [← hiff₁, hfail]
      simp
    simp [hblocked]
  | none =>
    obtain ⟨hW₁, hinc₁⟩ := hgood₁ hfail
    have hsources : ∀ f ∈ output.sources, t₀.get? (L ++ [f.fileName]) ≠ some .dir :=
      hiff₁.1 hfail
    rw [OutputDir.finish_of_no_failure (by simpa using hfail)] at hrun
    -- then the aggregates
    obtain ⟨res₂, t₂, hagg⟩ : ∃ res₂ t₂, (namespaces.foldlM OutputDir.writeAggregate
        { o₁ with report := { o₁.report with diagnostics := output.diagnostics } }).run.run
          t₁ = (res₂, t₂) := ⟨_, _, rfl⟩
    have hnodup₂ : (([] ++ output.sources.map fun (f : SourceFile) => (f.fileName, f.text)).map
        (fun w : String × String => w.1) ++ namespaces.map (· ++ ".rs")).Nodup := by
      simpa [EmitInputs.names_runWrites, Function.comp_def] using hin.nodup_runWrites d
    obtain ⟨hiff₂, hgood₂⟩ := (hW₁.setDiagnostics output.diagnostics).writeAggregates hdir
      hin.namespaces_plain hnodup₂ (P := includedPaths d output.sources)
      (fun ns _ => by simpa using hinc₁ ns) hagg
    cases res₂ with
    | error e =>
      -- an aggregate stands where a directory is
      rw [FileWork.run_bind_error hagg] at hrun
      obtain ⟨rfl, rfl⟩ := Prod.mk.inj hrun
      refine ⟨?_, fun r hr => by cases hr⟩
      have hblocked : ¬ ∀ ns ∈ namespaces, t₀.get? (L ++ [ns ++ ".rs"]) ≠ some .dir := by
        rw [← hiff₂]
        simp
      simp [hblocked]
    | ok o₃ =>
      -- last the stale entries
      rw [FileWork.run_bind_ok hagg] at hrun
      have hW₃ : Written t₀ L d (runWrites d output.sources namespaces) o₃ t₂ := by
        simpa [runWrites] using hgood₂ o₃ rfl
      have haggs := hiff₂.1 ⟨o₃, rfl⟩
      obtain ⟨hiff₃, hgood₃⟩ := hW₃.prune hdir (hin.isEntryName_runWrites d) hrun
      refine ⟨hiff₃.trans ⟨fun h => ⟨hsources, haggs, h⟩, fun h => h.2.2⟩,
        fun r hr => ?_⟩
      obtain ⟨hr, hleaves⟩ := hgood₃ r hr
      subst hr
      exact ⟨hleaves, hW₃.written, hW₃.unchanged, rfl⟩

/-- A run finishes exactly when it is unblocked. -/
theorem emit_ok_iff {t₀ : FileTree} {d : String} {L : List String} (hdir : DirAt t₀ d L)
    {output : PassOutput} {namespaces : List String} (hin : EmitInputs output.sources namespaces) :
    (∃ r t, (({ dir := d } : OutputDir).emit output namespaces).run.run t₀ = (.ok r, t)) ↔
      Unblocked t₀ L (runWrites d output.sources namespaces) := by
  obtain ⟨res, t, hrun⟩ : ∃ res t,
      (({ dir := d } : OutputDir).emit output namespaces).run.run t₀ = (res, t) := ⟨_, _, rfl⟩
  rw [← (emit_run hdir hin hrun).1, hrun]
  constructor
  · rintro ⟨r, t', h⟩
    exact ⟨r, (Prod.mk.inj h).1⟩
  · rintro ⟨r, rfl⟩
    exact ⟨r, t, rfl⟩

namespace Leaves

variable {t₀ t : FileTree} {L : List String} {W : List (String × String)}

theorem get?_written (h : Leaves t₀ L W t) (hnodup : (W.map (·.1)).Nodup) {w : String × String}
    (hw : w ∈ W) : t.get? (L ++ [w.1]) = some (.file w.2) := by
  rw [h.entry, entryAfter, List.lookup_eq_of_mem hnodup hw]

theorem get?_stale (h : Leaves t₀ L W t) {n : String} (hs : Stale W n = true) :
    t.get? (L ++ [n]) = none := by
  obtain ⟨hext, hfresh⟩ := stale_eq_true_iff.1 hs
  rw [h.entry, entryAfter, List.lookup_eq_none_iff_not_mem.2 hfresh, if_pos hext]

/-- An unblocked run changes no directory. -/
theorem get?_eq_dir_iff (h : Leaves t₀ L W t) (hunb : Unblocked t₀ L W) (l : List String) :
    t.get? l = some .dir ↔ t₀.get? l = some .dir := by
  by_cases hl : ∃ n, l = L ++ [n]
  · obtain ⟨n, rfl⟩ := hl
    rw [h.entry, entryAfter]
    cases hw : W.lookup n with
    | some x => simpa using hunb.1 _ (List.mem_of_lookup_eq_some hw)
    | none =>
      by_cases hext : extension? n = some "rs"
      · -- a stale entry, which the run could only remove because it was no directory
        have hs : Stale W n = true :=
          stale_eq_true_iff.2 ⟨hext, List.lookup_eq_none_iff_not_mem.1 hw⟩
        rw [if_pos hext]
        by_cases hlisted : n ∈ t₀.childrenAt L
        · simpa using hunb.2 n hlisted hs
        · have hnone : t₀.get? (L ++ [n]) = none := by
            simpa [FileTree.mem_childrenAt] using hlisted
          simp [hnone]
      · rw [if_neg hext]
  · rw [h.frame l fun n hn => hl ⟨n, hn⟩]

/-- The directory is still where it was after an unblocked run. -/
theorem dirAt (h : Leaves t₀ L W t) (hunb : Unblocked t₀ L W) {d : String}
    (hdir : DirAt t₀ d L) (hW : ∀ w ∈ W, IsEntryName w.1) : DirAt t d L where
  resolves := by
    obtain ⟨b, hres⟩ := hdir.resolves
    exact ⟨b, FileTree.resolve_congr (fun l => (h.get?_eq_dir_iff hunb l).symm) h.cwd hres⟩
  isDir := by
    rw [h.frame L fun n hn => by simp at hn]
    exact hdir.isDir
  entryNames n hn := by
    rw [h.entry, entryAfter] at hn
    cases hw : W.lookup n with
    | some x => exact hW _ (List.mem_of_lookup_eq_some hw)
    | none =>
      rw [hw] at hn
      refine hdir.entryNames n fun hnone => hn ?_
      simp [hnone]

/-- After a run, a run with the same writes is unblocked: its writes find files, and no entry
is stale. -/
theorem unblocked (h : Leaves t₀ L W t) (hnodup : (W.map (·.1)).Nodup) : Unblocked t L W :=
  ⟨fun w hw => by simp [h.get?_written hnodup hw], fun n _ hs => by simp [h.get?_stale hs]⟩

/-- Leaving again what a run left changes nothing. -/
theorem get?_of_leaves {t' : FileTree} (h : Leaves t₀ L W t) (h' : Leaves t L W t')
    (l : List String) : t'.get? l = t.get? l := by
  by_cases hl : ∃ n, l = L ++ [n]
  · obtain ⟨n, rfl⟩ := hl
    rw [h'.entry, entryAfter]
    cases hw : W.lookup n with
    | some x => rw [h.entry, entryAfter, hw]
    | none =>
      by_cases hext : extension? n = some "rs"
      · rw [if_pos hext, h.entry, entryAfter, hw, if_pos hext]
      · rw [if_neg hext]
  · exact h'.frame l fun n hn => hl ⟨n, hn⟩

end Leaves

/-- What a finished run into the directory `d` at `L` of `t₀` leaves and reports: every
generated file with its text; every module's aggregate with the includes of the module's
generated files, in the order they were written; nothing at the other `.rs` entries and the
other entries as they were; the rest of the tree unchanged; and as counts the writes that
changed an entry, the other writes, and the stale entries. -/
structure CurrentOutput (t₀ : FileTree) (L : List String) (d : String) (output : PassOutput)
    (namespaces : List String) (r : EmitReport) (t : FileTree) : Prop where
  sources : ∀ f ∈ output.sources, t.get? (L ++ [f.fileName]) = some (.file f.text)
  aggregates : ∀ ns ∈ namespaces,
    t.get? (L ++ [ns ++ ".rs"]) = some (.file (aggregate (includedPaths d output.sources ns)))
  others : ∀ n, n ∉ (runWrites d output.sources namespaces).map (·.1) →
    t.get? (L ++ [n]) = if extension? n = some "rs" then none else t₀.get? (L ++ [n])
  frame : ∀ l, (∀ n, l ≠ L ++ [n]) → t.get? l = t₀.get? l
  written : r.written = (runWrites d output.sources namespaces).countP (Changes t₀ L)
  unchanged : r.unchanged = (runWrites d output.sources namespaces).countP (!Changes t₀ L ·)
  removed :
    r.removed = ((t₀.childrenAt L).filter (Stale (runWrites d output.sources namespaces))).length

/-- **The output directory holds exactly the current output.** A run into the directory `d` at
`L` finishes exactly when it is unblocked, and a run that finishes leaves the current output
(`CurrentOutput`). -/
theorem emit_leaves_current_output {t₀ : FileTree} {d : String} {L : List String}
    (hdir : DirAt t₀ d L) {output : PassOutput} {namespaces : List String}
    (hin : EmitInputs output.sources namespaces) :
    ((∃ r t, (({ dir := d } : OutputDir).emit output namespaces).run.run t₀ = (.ok r, t)) ↔
        Unblocked t₀ L (runWrites d output.sources namespaces)) ∧
      ∀ r t, (({ dir := d } : OutputDir).emit output namespaces).run.run t₀ = (.ok r, t) →
        CurrentOutput t₀ L d output namespaces r t := by
  refine ⟨emit_ok_iff hdir hin, fun r t hrun => ?_⟩
  obtain ⟨hleaves, hw, hu, hrm⟩ := (emit_run hdir hin hrun).2 r rfl
  have hnodup := hin.nodup_runWrites d
  refine ⟨fun f hf => ?_, fun ns hns => ?_, fun n hn => ?_, hleaves.frame, hw, hu, hrm⟩
  · exact hleaves.get?_written hnodup (w := (f.fileName, f.text))
      (List.mem_append_left _ (List.mem_map_of_mem hf))
  · exact hleaves.get?_written hnodup
      (w := (ns ++ ".rs", aggregate (includedPaths d output.sources ns)))
      (List.mem_append_right _ (List.mem_map_of_mem (f := fun ns =>
        (ns ++ ".rs", aggregate (includedPaths d output.sources ns))) hns))
  · rw [hleaves.entry, entryAfter, List.lookup_eq_none_iff_not_mem.2 hn]

/-- An output directory `out` that holds a stale `old.rs` and a `notes.txt`. -/
def staleOutputTree : FileTree :=
  { entries := [(["out", "old.rs"], .file "// old\n"), (["out", "notes.txt"], .file "notes\n"),
      (["out"], .dir)] }

/-- A pass over a crate `app` with a module `app::sys`, which generates one file, for `app`. -/
def appPass : PassOutput :=
  { sources := [{ fileName := "app.singleton.rs", ns := "app", pattern := .singleton,
                  owners := ["Host"], text := "// host\n" }],
    diagnostics := [], stats := {} }

theorem staleOutputTree_dirAt : DirAt staleOutputTree "out" ["out"] where
  resolves := ⟨false, staleOutputTree.resolve_of_entryName (by decide)⟩
  isDir := by decide
  entryNames n hn := by
    obtain ⟨e, he⟩ := Option.ne_none_iff_exists'.1 hn
    have hmem := FileTree.mem_entries_of_get? he (by simp)
    simp [staleOutputTree] at hmem
    rcases hmem with ⟨rfl, -⟩ | ⟨rfl, -⟩ <;> decide

theorem appPass_emitInputs : EmitInputs appPass.sources ["app", "app::sys"] where
  named f hf := by
    simp only [appPass, List.mem_singleton] at hf
    subst hf
    exact ⟨by decide, by decide⟩
  fileNames_nodup := by decide
  namespaces_plain ns hns := by
    simp only [List.mem_cons, List.not_mem_nil, or_false] at hns
    rcases hns with rfl | rfl <;> decide
  namespaces_nodup := by decide

theorem emit_leaves_current_output_app :
    DirAt staleOutputTree "out" ["out"] ∧ EmitInputs appPass.sources ["app", "app::sys"] ∧
      ((∃ r t, (({ dir := "out" } : OutputDir).emit appPass ["app", "app::sys"]).run.run
          staleOutputTree = (.ok r, t)) ↔
        Unblocked staleOutputTree ["out"] (runWrites "out" appPass.sources ["app", "app::sys"])) ∧
      ∀ r t, (({ dir := "out" } : OutputDir).emit appPass ["app", "app::sys"]).run.run
          staleOutputTree = (.ok r, t) →
        CurrentOutput staleOutputTree ["out"] "out" appPass ["app", "app::sys"] r t :=
  ⟨staleOutputTree_dirAt, appPass_emitInputs,
    emit_leaves_current_output staleOutputTree_dirAt appPass_emitInputs⟩

/-- **A second run changes nothing.** Run again with the same output on the tree that a finished
run left, the run finishes, writes nothing, removes nothing, finds every one of its writes
unchanged, and leaves every location of the tree as it was. -/
theorem emit_rerun_changes_nothing {t₀ : FileTree} {d : String} {L : List String}
    (hdir : DirAt t₀ d L) {output : PassOutput} {namespaces : List String}
    (hin : EmitInputs output.sources namespaces) {r₁ : EmitReport} {t₁ : FileTree}
    (h₁ : (({ dir := d } : OutputDir).emit output namespaces).run.run t₀ = (.ok r₁, t₁)) :
    ∃ r₂ t₂,
      (({ dir := d } : OutputDir).emit output namespaces).run.run t₁ = (.ok r₂, t₂) ∧
      r₂.written = 0 ∧ r₂.removed = 0 ∧
      r₂.unchanged = output.sources.length + namespaces.length ∧
      ∀ l, t₂.get? l = t₁.get? l := by
  have hnodup := hin.nodup_runWrites d
  obtain ⟨hiff₁, hgood₁⟩ := emit_run hdir hin h₁
  have hunb₁ := hiff₁.1 ⟨r₁, rfl⟩
  obtain ⟨hleaves₁, -, -, -⟩ := hgood₁ r₁ rfl
  -- the first run left the directory in place, with every write done and nothing stale
  have hdir₁ := hleaves₁.dirAt hunb₁ hdir (hin.isEntryName_runWrites d)
  obtain ⟨r₂, t₂, h₂⟩ := (emit_ok_iff hdir₁ hin).2 (hleaves₁.unblocked hnodup)
  obtain ⟨hleaves₂, hw, hu, hrm⟩ := (emit_run hdir₁ hin h₂).2 r₂ rfl
  have hsame : ∀ w ∈ runWrites d output.sources namespaces, Changes t₁ L w = false := by
    intro w hw'
    simp [Changes, hleaves₁.get?_written hnodup hw']
  refine ⟨r₂, t₂, h₂, ?_, ?_, ?_, hleaves₁.get?_of_leaves hleaves₂⟩
  · rw [hw, List.countP_eq_zero]
    intro w hw'
    simp [hsame w hw']
  · rw [hrm, List.length_eq_zero_iff, List.filter_eq_nil_iff]
    intro n hn hs
    exact FileTree.mem_childrenAt.1 hn (hleaves₁.get?_stale (by simpa using hs))
  · rw [hu, List.countP_eq_length.2 (fun w hw' => by simp [hsame w hw'])]
    simp [runWrites]

/-- No entry of the directory `out` of `staleOutputTree` is a directory. -/
theorem staleOutputTree_entry_ne_dir (n : String) :
    staleOutputTree.get? (["out"] ++ [n]) ≠ some .dir := by
  intro h
  have hmem := FileTree.mem_entries_of_get? h (by simp)
  simp [staleOutputTree] at hmem

theorem emit_rerun_changes_nothing_app :
    DirAt staleOutputTree "out" ["out"] ∧ EmitInputs appPass.sources ["app", "app::sys"] ∧
      ∃ r₁ t₁, (({ dir := "out" } : OutputDir).emit appPass ["app", "app::sys"]).run.run
          staleOutputTree = (.ok r₁, t₁) ∧
        ∃ r₂ t₂,
          (({ dir := "out" } : OutputDir).emit appPass ["app", "app::sys"]).run.run t₁ =
            (.ok r₂, t₂) ∧
          r₂.written = 0 ∧ r₂.removed = 0 ∧
          r₂.unchanged = appPass.sources.length + ["app", "app::sys"].length ∧
          ∀ l, t₂.get? l = t₁.get? l := by
  obtain ⟨r₁, t₁, h₁⟩ := (emit_ok_iff staleOutputTree_dirAt appPass_emitInputs).2
    ⟨fun w _ => staleOutputTree_entry_ne_dir w.1, fun n _ _ => staleOutputTree_entry_ne_dir n⟩
  exact ⟨staleOutputTree_dirAt, appPass_emitInputs, r₁, t₁, h₁,
    emit_rerun_changes_nothing staleOutputTree_dirAt appPass_emitInputs h₁⟩

end Augment
