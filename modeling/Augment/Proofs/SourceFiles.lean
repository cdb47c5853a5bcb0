import Augment.Cli
import Augment.Proofs.Session
import Mathlib.Data.List.Induction

/-!
# The files of a pass

A pass puts each fragment into the file of its namespace and pattern, named
`namespace.pattern.rs`; next to them each module has its aggregate `namespace.rs`.

* `fileName_injective`: a file name gives back its namespace and pattern, whatever dots the
  namespace holds, since the two pattern tags end differently.
* `fileGrouped_fileGroups`: the fragments grouped by file key, one group per key, each with
  exactly the fragments of its key in their order.
* `assembleFiles_eq_ok`: the assembled files are sorted by strictly increasing name, and there is
  one per key of a fragment, assembled from exactly the fragments of that key.
* `Generator.generate_sources_partition_fragments`: so the sources of a pass hold every
  synthesized fragment in exactly one file, once.
* `inModule_pattern_file_iff`: the module filter of `expand` keeps the pattern files of the module
  itself and nothing else. Module paths are written with `::` and hold no dot, nor do pattern
  tags, so the dots of a file name cut it into its parts.
-/

namespace Augment

/-! ### File names -/

/-- A file name gives back its namespace and pattern. -/
theorem fileName_injective {ns ns' : String} {p p' : Pattern}
    (h : ns ++ "." ++ p.tag ++ ".rs" = ns' ++ "." ++ p'.tag ++ ".rs") : ns = ns' ∧ p = p' := by
  have hlist := congrArg (fun s => s.toList.reverse) h
  cases p <;> cases p' <;> simp [String.toList_append, Pattern.tag] at hlist <;>
    exact ⟨String.toList_injective hlist, rfl⟩

/-! ### The module filter of `expand` -/

/-- A separator that occurs in neither of two prefixes cuts two lists at the same place. -/
theorem eq_of_append_cons_eq {α : Type} {c : α} {a b x y : List α} (ha : c ∉ a) (hb : c ∉ b)
    (h : a ++ c :: x = b ++ c :: y) : a = b ∧ x = y := by
  induction a generalizing b with
  | nil =>
    cases b with
    | nil => simpa using h
    | cons d b =>
      simp only [List.nil_append, List.cons_append, List.cons.injEq] at h
      exact absurd (h.1 ▸ List.mem_cons_self) hb
  | cons d a ih =>
    cases b with
    | nil =>
      simp only [List.nil_append, List.cons_append, List.cons.injEq] at h
      exact absurd (h.1 ▸ List.mem_cons_self) ha
    | cons e b =>
      simp only [List.cons_append, List.cons.injEq] at h
      obtain ⟨hab, hxy⟩ := ih (fun h' => ha (List.mem_cons_of_mem _ h'))
        (fun h' => hb (List.mem_cons_of_mem _ h')) h.2
      exact ⟨by rw [h.1, hab], hxy⟩

/-- What is left of a text after a prefix, when the text starts with it. -/
theorem dropPrefix?_map_copy (s pat : String) :
    (s.dropPrefix? pat).map String.Slice.copy =
      if pat.toList <+: s.toList then some (String.ofList (s.toList.drop pat.length)) else none := by
  cases h : s.dropPrefix? pat with
  | none =>
    have hstart : s.startsWith pat = false := by
      rw [String.dropPrefix?_eq_dropPrefix?_toSlice, String.Slice.dropPrefix?_eq_none_iff] at h
      exact h
    rw [String.startsWith_string_eq_false_iff] at hstart
    simp [hstart]
  | some rest =>
    have hs := String.eq_append_of_dropPrefix?_string_eq_some h
    have hprefix : pat.toList <+: s.toList := ⟨rest.copy.toList, by rw [hs, String.toList_append]⟩
    rw [if_pos hprefix, Option.map_some, hs]
    congr 1
    apply String.toList_injective
    simp [String.toList_append, String.length_toList]

/-- The filter keeps a file exactly when its name is the module's path, a dot, and a rest with
exactly one dot. -/
theorem inModule_eq_true_iff (fileName module : String) :
    Cli.inModule fileName module = true ↔
      ∃ more, fileName.toList = module.toList ++ '.' :: more ∧
        (more.filter (· == '.')).length = 1 := by
  unfold Cli.inModule
  cases h : fileName.dropPrefix? module with
  | none =>
    -- nothing is left, so the module's path is no prefix of the name
    have hnot : ¬ module.toList <+: fileName.toList := by
      intro hp
      have hcopy := dropPrefix?_map_copy fileName module
      rw [h, if_pos hp] at hcopy
      cases hcopy
    simp only [Bool.false_eq_true, false_iff]
    rintro ⟨more, hmore, -⟩
    exact hnot ⟨_, hmore.symm⟩
  | some rest =>
    rw [String.eq_append_of_dropPrefix?_string_eq_some h, String.toList_append]
    simp only [String.Slice.toString_eq]
    generalize rest.copy.toList = l
    simp only [List.append_cancel_left_eq]
    constructor
    · intro hl
      split at hl
      · rename_i more
        exact ⟨more, rfl, by simpa using hl⟩
      · cases hl
    · rintro ⟨more, rfl, hcount⟩
      simpa using hcount

theorem dot_not_mem_tag (pattern : Pattern) : '.' ∉ pattern.tag.toList := by
  cases pattern <;> decide

/-- **`expand --module` shows the module's own pattern files.** Of the files named for a
namespace, the filter keeps a pattern file exactly when the namespace is the module, and never the
aggregate: files of nested modules (`m::a`), of modules that only share a prefix (`m` and `mx`)
and aggregates are left out. -/
theorem inModule_pattern_file_iff (ns module : String) (pattern : Pattern)
    (hns : '.' ∉ ns.toList) (hmodule : '.' ∉ module.toList) :
    (Cli.inModule (ns ++ "." ++ pattern.tag ++ ".rs") module = true ↔ ns = module) ∧
      Cli.inModule (ns ++ ".rs") module = false := by
  have hname : (ns ++ "." ++ pattern.tag ++ ".rs").toList =
      ns.toList ++ '.' :: (pattern.tag.toList ++ ['.', 'r', 's']) := by
    simp [String.toList_append]
  have haggregate : (ns ++ ".rs").toList = ns.toList ++ '.' :: ['r', 's'] := by
    simp [String.toList_append]
  refine ⟨⟨fun h => ?_, fun h => ?_⟩, ?_⟩
  · obtain ⟨more, hmore, -⟩ := (inModule_eq_true_iff _ _).1 h
    rw [hname] at hmore
    exact String.toList_injective (eq_of_append_cons_eq hns hmodule hmore).1
  · subst h
    refine (inModule_eq_true_iff _ _).2 ⟨_, hname, ?_⟩
    have htag : pattern.tag.toList.filter (· == '.') = [] := by
      rw [List.filter_eq_nil_iff]
      intro c hc heq
      exact dot_not_mem_tag pattern (by simpa using (beq_iff_eq.1 heq) ▸ hc)
    simp [List.filter_append, htag]
  · -- the aggregate's rest after the module is `rs`, with no dot
    rw [Bool.eq_false_iff]
    intro h
    obtain ⟨more, hmore, hcount⟩ := (inModule_eq_true_iff _ _).1 h
    rw [haggregate] at hmore
    rw [← (eq_of_append_cons_eq hns hmodule hmore).2] at hcount
    simp at hcount

theorem inModule_pattern_file_iff_sibling :
    ('.' ∉ "app::uikit".toList ∧ '.' ∉ "app::ui".toList) ∧
      ((Cli.inModule ("app::uikit" ++ "." ++ Pattern.notify.tag ++ ".rs") "app::ui" = true ↔
          "app::uikit" = "app::ui") ∧
        Cli.inModule ("app::uikit" ++ ".rs") "app::ui" = false) :=
  ⟨⟨by decide, by decide⟩, inModule_pattern_file_iff "app::uikit" "app::ui" .notify (by decide) (by decide)⟩

/-! ### Grouping fragments by file -/

/-- The key of the file a fragment goes to. -/
def Fragment.fileKey (f : Fragment) : String × Pattern := (f.ns, f.pattern)

/-- The groups are those of the fragments `frs`: one per file key, each holding exactly the
fragments of its key in their order, one for every fragment's key and none for another. -/
structure FileGrouped (frs : List Fragment) (gs : List ((String × Pattern) × List Fragment)) :
    Prop where
  nodup : (gs.map (·.1)).Nodup
  members : ∀ e ∈ gs, e.2 = frs.filter (·.fileKey == e.1)
  complete : ∀ f ∈ frs, ∃ e ∈ gs, e.1 = f.fileKey
  sound : ∀ e ∈ gs, ∃ f ∈ frs, f.fileKey = e.1

theorem fileGroups_append_singleton (frs : List Fragment) (f : Fragment) :
    fileGroups (frs ++ [f]) =
      if (fileGroups frs).any (·.1 == f.fileKey) then
        (fileGroups frs).map fun e => if e.1 == f.fileKey then (e.1, e.2 ++ [f]) else e
      else fileGroups frs ++ [(f.fileKey, [f])] := by
  simp only [fileGroups, List.foldl_append, List.foldl_cons, List.foldl_nil]
  rfl

/-- **The step**: adding the next fragment keeps the groups grouped. -/
theorem FileGrouped.append_singleton {frs : List Fragment}
    {gs : List ((String × Pattern) × List Fragment)} (h : FileGrouped frs gs) (f : Fragment) :
    FileGrouped (frs ++ [f])
      (if gs.any (·.1 == f.fileKey) then
        gs.map fun e => if e.1 == f.fileKey then (e.1, e.2 ++ [f]) else e
      else gs ++ [(f.fileKey, [f])]) := by
  by_cases hmem : ∃ e ∈ gs, e.1 = f.fileKey
  · -- the fragment joins the group of its key
    have hany : gs.any (·.1 == f.fileKey) = true := by
      obtain ⟨e, he, hk⟩ := hmem
      exact List.any_eq_true.2 ⟨e, he, by simp [hk]⟩
    rw [if_pos hany]
    have hkeys : (gs.map fun e => if e.1 == f.fileKey then (e.1, e.2 ++ [f]) else e).map (·.1) =
        gs.map (·.1) := by
      rw [List.map_map]
      refine List.map_congr_left fun e _ => ?_
      by_cases hk : e.1 = f.fileKey <;> simp [hk]
    constructor
    · rw [hkeys]
      exact h.nodup
    · intro e' he'
      obtain ⟨e, he, rfl⟩ := List.mem_map.1 he'
      rw [List.filter_append]
      by_cases hk : e.1 = f.fileKey
      · simp [hk, h.members e he]
      · have hne : (e.1 == f.fileKey) = false := by simpa using hk
        simp [hne, h.members e he, Ne.symm hk]
    · intro x hx
      rcases List.mem_append.1 hx with hx | hx
      · obtain ⟨e, he, hk⟩ := h.complete x hx
        refine ⟨_, List.mem_map_of_mem he, ?_⟩
        rw [← hk]
        split <;> rfl
      · obtain ⟨e, he, hk⟩ := hmem
        rw [List.mem_singleton.1 hx]
        refine ⟨_, List.mem_map_of_mem he, ?_⟩
        simp [hk]
    · intro e' he'
      obtain ⟨e, he, rfl⟩ := List.mem_map.1 he'
      obtain ⟨x, hx, hk⟩ := h.sound e he
      refine ⟨x, List.mem_append_left _ hx, ?_⟩
      rw [hk]
      split <;> rfl
  · -- the fragment opens the group of a new key
    have hany : gs.any (·.1 == f.fileKey) = false := by
      rw [List.any_eq_false]
      intro e he hk
      exact hmem ⟨e, he, by simpa using hk⟩
    rw [if_neg (by simp [hany])]
    -- no earlier fragment has the new key, since its key would have a group
    have hnone : frs.filter (·.fileKey == f.fileKey) = [] := by
      rw [List.filter_eq_nil_iff]
      intro x hx hk
      obtain ⟨e, he, hek⟩ := h.complete x hx
      exact hmem ⟨e, he, hek.trans (by simpa using hk)⟩
    constructor
    · rw [List.map_append, List.nodup_append]
      refine ⟨h.nodup, by simp, ?_⟩
      intro k hk k' hk' heq
      obtain ⟨e, he, rfl⟩ := List.mem_map.1 hk
      exact hmem ⟨e, he, heq.trans (by simpa using hk')⟩
    · intro e he
      rcases List.mem_append.1 he with he | he
      · have hne : e.1 ≠ f.fileKey := fun hk => hmem ⟨e, he, hk⟩
        rw [List.filter_append, ← h.members e he]
        simp [Ne.symm hne]
      · rw [List.mem_singleton.1 he, List.filter_append, hnone]
        simp
    · intro x hx
      rcases List.mem_append.1 hx with hx | hx
      · obtain ⟨e, he, hk⟩ := h.complete x hx
        exact ⟨e, List.mem_append_left _ he, hk⟩
      · rw [List.mem_singleton.1 hx]
        exact ⟨_, List.mem_append_right _ (List.mem_singleton_self _), rfl⟩
    · intro e he
      rcases List.mem_append.1 he with he | he
      · obtain ⟨x, hx, hk⟩ := h.sound e he
        exact ⟨x, List.mem_append_left _ hx, hk⟩
      · rw [List.mem_singleton.1 he]
        exact ⟨f, List.mem_append_right _ (List.mem_singleton_self _), rfl⟩

/-- **The run**: the groups of the fragments are grouped by file key. -/
theorem fileGrouped_fileGroups (frs : List Fragment) : FileGrouped frs (fileGroups frs) := by
  induction frs using List.reverseRecOn with
  | nil => exact ⟨List.nodup_nil, by simp [fileGroups], by simp, by simp [fileGroups]⟩
  | append_singleton frs f ih =>
    rw [fileGroups_append_singleton]
    exact ih.append_singleton f

theorem FileGrouped.perm {frs : List Fragment} {gs gs' : List ((String × Pattern) × List Fragment)}
    (h : FileGrouped frs gs) (hperm : gs.Perm gs') : FileGrouped frs gs' where
  nodup := (hperm.map _).nodup_iff.1 h.nodup
  members e he := h.members e (hperm.mem_iff.2 he)
  complete f hf := by
    obtain ⟨e, he, hk⟩ := h.complete f hf
    exact ⟨e, hperm.mem_iff.1 he, hk⟩
  sound e he := h.sound e (hperm.mem_iff.2 he)

/-! ### Assembling files -/

/-- Mapping a function that may fail over a list, when it succeeds, pairs each element with its
result. -/
theorem exists_pairs_of_mapM_eq_ok {α β ε : Type} {f : α → Except ε β} :
    ∀ {l : List α} {bs : List β}, l.mapM f = .ok bs →
      ∃ pairs : List (α × β), pairs.map Prod.fst = l ∧ pairs.map Prod.snd = bs ∧
        ∀ p ∈ pairs, f p.1 = .ok p.2
  | [], bs, h => by
    cases h
    exact ⟨[], rfl, rfl, by simp⟩
  | a :: l, bs, h => by
    rw [List.mapM_cons] at h
    cases ha : f a with
    | error e =>
      rw [ha] at h
      cases h
    | ok b =>
      rw [ha] at h
      cases hl : l.mapM f with
      | error e =>
        rw [hl] at h
        cases h
      | ok bs' =>
        rw [hl] at h
        cases h
        obtain ⟨pairs, hfst, hsnd, hok⟩ := exists_pairs_of_mapM_eq_ok hl
        refine ⟨(a, b) :: pairs, by simp [hfst], by simp [hsnd], ?_⟩
        intro p hp
        rcases List.mem_cons.1 hp with rfl | hp
        · exact ha
        · exact hok p hp

theorem mapM_map_ok {α β γ ε : Type} {f : α → Except ε β} {g : β → γ} (l : List α) :
    l.mapM (fun a => do return g (← f a)) = (l.mapM f).map (List.map g) := by
  induction l with
  | nil => rfl
  | cons a l ih =>
    rw [List.mapM_cons, List.mapM_cons, ih]
    cases f a <;> cases l.mapM f <;> rfl

/-- A file assembled from fragments is named for its key, lists their owners and holds the
header and their rendered texts, each on its own line. -/
theorem assembleFile_eq_ok {ns : String} {pattern : Pattern} {frs : List Fragment}
    {file : SourceFile} (h : assembleFile ns pattern frs = .ok file) :
    file.ns = ns ∧ file.pattern = pattern ∧ file.fileName = ns ++ "." ++ pattern.tag ++ ".rs" ∧
      file.owners = frs.map (·.ownerName) ∧
      ∃ streams, frs.mapM Fragment.render = .ok streams ∧
        file.text = generatedHeader ++ "\n" ++
          String.join (streams.map (Rust.printStream · ++ "\n")) := by
  unfold assembleFile at h
  rw [mapM_map_ok] at h
  cases hr : frs.mapM Fragment.render with
  | error e =>
    rw [hr] at h
    cases h
  | ok streams =>
    rw [hr] at h
    cases h
    exact ⟨rfl, rfl, rfl, rfl, streams, rfl, rfl⟩

/-- Names sorted and pairwise distinct are strictly increasing. -/
theorem pairwise_lt_of_sorted {names : List String}
    (hsorted : names.Pairwise (· ≤ ·)) (hnodup : names.Nodup) : names.Pairwise (· < ·) :=
  (hsorted.and hnodup).imp fun ⟨hle, hne⟩ =>
    String.not_le.1 fun hge => hne (String.le_antisymm hle hge)

/-- **The assembled files**: sorted by strictly increasing name, one for the key of every
fragment, each assembled from exactly the fragments of its key, of which it has at least one. -/
theorem assembleFiles_eq_ok {frs : List Fragment} {files : List SourceFile}
    (h : assembleFiles frs = .ok files) :
    (files.map (·.fileName)).Pairwise (· < ·) ∧
      (∀ f ∈ frs, ∃ file ∈ files, (file.ns, file.pattern) = f.fileKey) ∧
      ∀ file ∈ files, frs.filter (·.fileKey == (file.ns, file.pattern)) ≠ [] ∧
        assembleFile file.ns file.pattern (frs.filter (·.fileKey == (file.ns, file.pattern))) =
          .ok file := by
  unfold assembleFiles at h
  have hgrouped : FileGrouped frs ((fileGroups frs).mergeSort fun a b => fileKeyLE a.1 b.1) :=
    (fileGrouped_fileGroups frs).perm (List.mergeSort_perm _ _).symm
  dsimp only at h
  generalize (fileGroups frs).mergeSort (fun a b => fileKeyLE a.1 b.1) = groups at h hgrouped
  cases hm : groups.mapM (fun g => assembleFile g.1.1 g.1.2 g.2) with
  | error e =>
    rw [hm] at h
    cases h
  | ok unsorted =>
    rw [hm] at h
    cases h
    obtain ⟨pairs, hfst, hsnd, hok⟩ := exists_pairs_of_mapM_eq_ok hm
    -- every file is assembled from one group, and bears its key
    have hfrom : ∀ file ∈ unsorted, ∃ e ∈ groups, assembleFile e.1.1 e.1.2 e.2 = .ok file := by
      intro file hfile
      rw [← hsnd] at hfile
      obtain ⟨p, hp, rfl⟩ := List.mem_map.1 hfile
      exact ⟨p.1, hfst ▸ List.mem_map_of_mem hp, hok p hp⟩
    have hkeys : unsorted.map (fun file => (file.ns, file.pattern)) = groups.map (·.1) := by
      rw [← hsnd, ← hfst, List.map_map, List.map_map]
      refine List.map_congr_left fun p hp => ?_
      obtain ⟨hns, hpat, -⟩ := assembleFile_eq_ok (hok p hp)
      simp [hns, hpat]
    have hnames : unsorted.map (·.fileName) =
        (groups.map (·.1)).map fun k => k.1 ++ "." ++ k.2.tag ++ ".rs" := by
      rw [← hkeys, List.map_map]
      refine List.map_congr_left fun file hfile => ?_
      obtain ⟨e, -, he⟩ := hfrom file hfile
      obtain ⟨hns, hpat, hname, -⟩ := assembleFile_eq_ok he
      simp [hname, hns, hpat]
    have hnodup : (unsorted.map (·.fileName)).Nodup := by
      rw [hnames]
      rw [List.Nodup, List.pairwise_map]
      exact hgrouped.nodup.imp fun hne heq => hne (Prod.ext (fileName_injective heq).1
        (fileName_injective heq).2)
    have hperm := List.mergeSort_perm unsorted (fun a b => decide (a.fileName ≤ b.fileName))
    refine ⟨?_, fun f hf => ?_, fun file hfile => ?_⟩
    · -- sorted by name, and the names are distinct
      apply pairwise_lt_of_sorted
      · rw [List.pairwise_map]
        refine (List.pairwise_mergeSort (fun a b c hab hbc => ?_) (fun a b => ?_) unsorted).imp ?_
        · simp only [decide_eq_true_eq] at hab hbc ⊢
          exact String.le_trans hab hbc
        · simpa using String.le_total a.fileName b.fileName
        · simp
      · exact (hperm.map _).nodup_iff.2 hnodup
    · obtain ⟨e, he, hk⟩ := hgrouped.complete f hf
      have hkey : e.1 ∈ unsorted.map (fun file => (file.ns, file.pattern)) :=
        hkeys ▸ List.mem_map_of_mem he
      obtain ⟨file, hfile, hfk⟩ := List.mem_map.1 hkey
      exact ⟨file, hperm.mem_iff.2 hfile, hfk.trans hk⟩
    · obtain ⟨e, he, hasm⟩ := hfrom file (hperm.mem_iff.1 hfile)
      obtain ⟨hns, hpat, -⟩ := assembleFile_eq_ok hasm
      obtain ⟨f, hf, hfk⟩ := hgrouped.sound e he
      have hkey : (e.1.1, e.1.2) = e.1 := rfl
      rw [hns, hpat, hkey, ← hgrouped.members e he]
      refine ⟨?_, hasm⟩
      rw [hgrouped.members e he]
      exact List.ne_nil_of_mem (List.mem_filter.2 ⟨hf, by simp [hfk]⟩)

/-! ### The files of a pass -/

namespace Generator

variable {g : Generator} {model : SymbolModel} {b : Bool} {o : PassOutput}

/-- The fragments a pass of the generator synthesizes: the singleton pattern's, then the
change-notification pattern's, each in the order of its owner groups. -/
def passFragments (g : Generator) (model : SymbolModel) : List Fragment :=
  (g.singleton.pass (singletonRun g.options model) model).1 ++
    (g.notify.pass (notifyRun g.options model) model).1

/-- The files of a pass that returns an output are those assembled from its fragments. -/
theorem assembleFiles_of_generate_eq_ok (h : (g.generate model b).2 = .ok o) :
    assembleFiles (g.passFragments model) = .ok o.sources := by
  obtain ⟨hs, hn⟩ := runs_of_generate_eq_ok h
  unfold generate at h
  simp only [hs, hn] at h
  cases hv : validate g.options.markers model b with
  | error e =>
    rw [hv] at h
    cases h
  | ok d =>
    rw [hv] at h
    cases ha : assembleFiles (g.passFragments model) with
    | error e =>
      rw [passFragments] at ha
      rw [ha] at h
      cases h
    | ok files =>
      rw [passFragments] at ha
      rw [ha] at h
      cases h
      rfl

/-- **Every synthesized fragment lands in exactly one file, once.** The sources of a pass that
returns an output are sorted by strictly increasing name, and there is exactly one for every
namespace and pattern of a synthesized fragment and none other. Each is named
`namespace.pattern.rs`, lists the owners of exactly the fragments of its namespace and pattern in
the order of their pattern's owner groups, and holds the header and then each of those
fragments' rendered text, each on a line of its own. -/
theorem generate_sources_partition_fragments (h : (g.generate model b).2 = .ok o) :
    (o.sources.map (·.fileName)).Pairwise (· < ·) ∧
      (o.sources.map fun file => (file.ns, file.pattern)).Nodup ∧
      (∀ fr ∈ g.passFragments model, ∃ file ∈ o.sources,
        file.ns = fr.ns ∧ file.pattern = fr.pattern) ∧
      ∀ file ∈ o.sources,
        (g.passFragments model).filter (fun fr => fr.ns == file.ns && fr.pattern == file.pattern) ≠
            [] ∧
          file.fileName = file.ns ++ "." ++ file.pattern.tag ++ ".rs" ∧
          file.owners = ((g.passFragments model).filter fun fr =>
            fr.ns == file.ns && fr.pattern == file.pattern).map (·.ownerName) ∧
          ∃ streams, ((g.passFragments model).filter fun fr =>
              fr.ns == file.ns && fr.pattern == file.pattern).mapM Fragment.render = .ok streams ∧
            file.text = generatedHeader ++ "\n" ++
              String.join (streams.map (Rust.printStream · ++ "\n")) := by
  obtain ⟨hsorted, hcomplete, hfiles⟩ := assembleFiles_eq_ok (assembleFiles_of_generate_eq_ok h)
  refine ⟨hsorted, ?_, fun fr hfr => ?_, fun file hfile => ?_⟩
  · -- a file's name is its key's, and the names are distinct
    rw [List.Nodup, List.pairwise_map]
    refine (List.pairwise_map.1 hsorted).imp_of_mem fun ha hb hlt hkey => ?_
    obtain ⟨-, -, ha', -⟩ := assembleFile_eq_ok (hfiles _ ha).2
    obtain ⟨-, -, hb', -⟩ := assembleFile_eq_ok (hfiles _ hb).2
    simp only [Prod.mk.injEq] at hkey
    rw [ha', hb', hkey.1, hkey.2] at hlt
    exact String.lt_irrefl _ hlt
  · obtain ⟨file, hfile, hkey⟩ := hcomplete fr hfr
    exact ⟨file, hfile, congrArg Prod.fst hkey, congrArg Prod.snd hkey⟩
  · obtain ⟨hne, hasm⟩ := hfiles file hfile
    obtain ⟨-, -, hname, howners, streams, hrender, htext⟩ := assembleFile_eq_ok hasm
    exact ⟨hne, hname, howners, streams, hrender, htext⟩

/-- The one-type singleton model passes and files its fragment. -/
theorem generate_sources_partition_fragments_widget :
    ∃ o, ((ofOptions {}).generate singletonWidget false).2 = .ok o ∧
      (o.sources.map (·.fileName)).Pairwise (· < ·) ∧
      (o.sources.map fun file => (file.ns, file.pattern)).Nodup ∧
      (∀ fr ∈ (ofOptions {}).passFragments singletonWidget, ∃ file ∈ o.sources,
        file.ns = fr.ns ∧ file.pattern = fr.pattern) ∧
      ∀ file ∈ o.sources,
        ((ofOptions {}).passFragments singletonWidget).filter
            (fun fr => fr.ns == file.ns && fr.pattern == file.pattern) ≠ [] ∧
          file.fileName = file.ns ++ "." ++ file.pattern.tag ++ ".rs" ∧
          file.owners = (((ofOptions {}).passFragments singletonWidget).filter fun fr =>
            fr.ns == file.ns && fr.pattern == file.pattern).map (·.ownerName) ∧
          ∃ streams, (((ofOptions {}).passFragments singletonWidget).filter fun fr =>
              fr.ns == file.ns && fr.pattern == file.pattern).mapM Fragment.render = .ok streams ∧
            file.text = generatedHeader ++ "\n" ++
              String.join (streams.map (Rust.printStream · ++ "\n")) := by
  obtain ⟨o, ho⟩ : ∃ o, ((ofOptions {}).generate singletonWidget false).2 = .ok o := by
    have hok : (((ofOptions {}).generate singletonWidget false).2.toOption).isSome = true := by
      decide +kernel
    match h : ((ofOptions {}).generate singletonWidget false).2 with
    | .ok o => exact ⟨o, rfl⟩
    | .error _ => simp [h, Except.toOption] at hok
  exact ⟨o, ho, generate_sources_partition_fragments ho⟩

end Generator

end Augment
