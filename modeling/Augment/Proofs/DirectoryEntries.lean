import Augment.Files.Tree
import Augment.Proofs.Lookup

/-!
# Entries of a directory

A directory path `d` joined with an entry name `n` (`IsEntryName`: not empty, not `.` or `..`,
and without a separator) has the components of `d` and then `n` (`components_join`). So it
resolves to the entry `n` of the directory that `d` resolves to (`FileTree.resolve_join`), and
two entry names give the same path exactly when they are the same name (`components_join_inj`).
Resolving only looks at where the directories are (`FileTree.resolve_congr`).

Beside these: what a location holds after `set` and `erase`, what `status`, `read`, `write`,
`removeFile` and `list` do at a resolved location, and that a directory lists each name it holds,
once (`FileTree.mem_childrenAt`, `FileTree.nodup_childrenAt`).
-/

namespace Augment.Files

/-! ### Components of a joined path -/

theorem segmentsFrom_append_sep (xs ys acc : List Char) (start pos : Nat) :
    segmentsFrom (xs ++ '/' :: ys) acc start pos =
      segmentsFrom xs acc start pos ++
        segmentsFrom ys [] (pos + xs.length + 1) (pos + xs.length + 1) := by
  induction xs generalizing acc start pos with
  | nil => simp [segmentsFrom]
  | cons c xs ih =>
    -- the offset after the separator, counted from the shorter text
    have hpos : pos + 1 + xs.length + 1 = pos + (xs.length + 1) + 1 := by omega
    by_cases hc : c = '/'
    · subst hc
      simp [segmentsFrom, ih, hpos]
    · simp [segmentsFrom, hc, ih, hpos]

theorem segmentsFrom_of_not_mem (ys acc : List Char) (start pos : Nat) (h : '/' ∉ ys) :
    segmentsFrom ys acc start pos = [(String.ofList (acc.reverse ++ ys), start)] := by
  induction ys generalizing acc pos with
  | nil => simp [segmentsFrom]
  | cons c ys ih =>
    have hc : c ≠ '/' := fun hc => h (hc ▸ List.mem_cons_self ..)
    simp [segmentsFrom, hc, ih (c :: acc) (pos + 1) (fun hm => h (List.mem_cons_of_mem _ hm))]

/-- A name that a directory can hold: not empty, not `.` or `..`, and without a separator. -/
def IsEntryName (n : String) : Prop :=
  '/' ∉ n.toList ∧ n ≠ "" ∧ n ≠ "." ∧ n ≠ ".."

instance : DecidablePred IsEntryName := fun n =>
  inferInstanceAs (Decidable ('/' ∉ n.toList ∧ n ≠ "" ∧ n ≠ "." ∧ n ≠ ".."))

theorem bodyPieces_of_entryName {n : String} (hn : IsEntryName n) (pos : Nat) :
    bodyPieces n.toList pos = [⟨.normal n, pos, pos + n.length⟩] := by
  obtain ⟨hsep, hne, hdot, hdots⟩ := hn
  simp [bodyPieces, segmentsFrom_of_not_mem _ _ _ _ hsep, hne, hdot, hdots]

theorem bodyPieces_append_name {n : String} (hn : IsEntryName n) (xs : List Char) (pos : Nat) :
    bodyPieces (xs ++ '/' :: n.toList) pos =
      bodyPieces xs pos ++
        [⟨.normal n, pos + xs.length + 1, pos + xs.length + 1 + n.length⟩] := by
  obtain ⟨hsep, hne, hdot, hdots⟩ := hn
  simp [bodyPieces, segmentsFrom_append_sep, segmentsFrom_of_not_mem _ _ _ _ hsep, hne, hdot, hdots]

theorem bodyPieces_append_sep (xs : List Char) (pos : Nat) :
    bodyPieces (xs ++ ['/']) pos = bodyPieces xs pos := by
  simp [bodyPieces, segmentsFrom_append_sep, segmentsFrom]

theorem pieces_of_root {p : String} {r : List Char} (h : p.toList = '/' :: r) :
    pieces p = ⟨.root, 0, 1⟩ :: bodyPieces r 1 := by
  simp [pieces, h]

theorem pieces_of_dot {p : String} (h : p.toList = ['.']) : pieces p = [⟨.current, 0, 1⟩] := by
  simp [pieces, h]

theorem pieces_of_dot_sep {p : String} {r : List Char} (h : p.toList = '.' :: '/' :: r) :
    pieces p = ⟨.current, 0, 1⟩ :: bodyPieces ('/' :: r) 1 := by
  simp [pieces, h]

theorem pieces_of_body {p : String} (hroot : p.toList.head? ≠ some '/')
    (hdot : p.toList ≠ ['.']) (hdotSep : p.toList.take 2 ≠ ['.', '/']) :
    pieces p = bodyPieces p.toList 0 := by
  unfold pieces
  split <;> simp_all

/-- Whatever follows a path and a separator, the path's own text decides how it starts: with a
root or a leading `.` or neither, and then the components of the rest from offset `k`. -/
theorem pieces_append_sep_split (s : String) :
    ∃ pre tail k, k + tail.length = s.length ∧
      (∀ ys : List Char, pieces (String.ofList (s.toList ++ '/' :: ys)) =
        pre ++ bodyPieces (tail ++ '/' :: ys) k) ∧
      (s ≠ "" → pieces s = pre ++ bodyPieces tail k) := by
  obtain ⟨cs, rfl⟩ : ∃ cs, s = String.ofList cs := ⟨s.toList, by simp⟩
  rw [String.length_ofList, String.toList_ofList]
  rcases cs with _ | ⟨c, r⟩
  · -- the empty path: the separator is a root
    refine ⟨[⟨.root, 0, 1⟩], [], 0, rfl, fun ys => ?_, fun h => absurd rfl h⟩
    rw [pieces_of_root (r := ys) (by simp)]
    simp [bodyPieces, segmentsFrom]
  · by_cases hroot : c = '/'
    · -- an absolute path
      subst hroot
      refine ⟨[⟨.root, 0, 1⟩], r, 1, by simp; omega, fun ys => ?_, fun _ => ?_⟩
      · rw [pieces_of_root (r := r ++ '/' :: ys) (by simp)]; rfl
      · rw [pieces_of_root (r := r) (by simp)]; rfl
    · by_cases hdot : c = '.' ∧ (r = [] ∨ r.head? = some '/')
      · obtain ⟨rfl, rfl | hsep⟩ := hdot
        · -- the path `.`
          refine ⟨[⟨.current, 0, 1⟩], [], 1, rfl, fun ys => ?_, fun _ => ?_⟩
          · rw [pieces_of_dot_sep (r := ys) (by simp)]; rfl
          · rw [pieces_of_dot (by simp)]; simp [bodyPieces, segmentsFrom]
        · -- a path that starts with `./`
          obtain ⟨r', rfl⟩ : ∃ r', r = '/' :: r' := by
            cases r with
            | nil => simp at hsep
            | cons c' r' => simp at hsep; exact ⟨r', by rw [hsep]⟩
          refine ⟨[⟨.current, 0, 1⟩], '/' :: r', 1, by simp; omega, fun ys => ?_,
            fun _ => ?_⟩
          · rw [pieces_of_dot_sep (r := r' ++ '/' :: ys) (by simp)]; rfl
          · rw [pieces_of_dot_sep (r := r') (by simp)]; rfl
      · -- neither a root nor a leading `.`: every component is in the body
        refine ⟨[], c :: r, 0, by simp, fun ys => ?_, fun _ => ?_⟩
        · rw [pieces_of_body] <;> rcases r with _ | ⟨c', r'⟩ <;> simp_all
        · rw [pieces_of_body] <;> rcases r with _ | ⟨c', r'⟩ <;> simp_all

/-- A separator after a path that is not empty adds no component. -/
theorem pieces_append_sep {s : String} (hs : s ≠ "") : pieces (s ++ "/") = pieces s := by
  obtain ⟨pre, tail, k, -, hjoin, hself⟩ := pieces_append_sep_split s
  have h0 := hjoin []
  rw [show String.ofList (s.toList ++ ['/']) = s ++ "/" by simp] at h0
  rw [h0, hself hs, bodyPieces_append_sep]

/-- An entry name after a path and a separator is one more component, which ends the text. -/
theorem pieces_append_sep_name (s : String) {n : String} (hn : IsEntryName n) :
    pieces (s ++ "/" ++ n) =
      pieces (s ++ "/") ++ [⟨.normal n, s.length + 1, s.length + 1 + n.length⟩] := by
  obtain ⟨pre, tail, k, hk, hjoin, -⟩ := pieces_append_sep_split s
  have h0 := hjoin []
  have h1 := hjoin n.toList
  rw [show String.ofList (s.toList ++ ['/']) = s ++ "/" by simp] at h0
  rw [show String.ofList (s.toList ++ '/' :: n.toList) = s ++ "/" ++ n by
    simp [String.append_assoc]] at h1
  rw [h1, h0, bodyPieces_append_name hn, bodyPieces_append_sep, List.append_assoc, hk]

theorem not_startsWith_sep {n : String} (hn : IsEntryName n) : n.startsWith "/" = false := by
  simp only [String.startsWith_string_eq_false_iff]
  intro hpre
  exact hn.1 (hpre.subset (by simp))

/-- An entry name is a path of one component. -/
theorem pieces_of_entryName {n : String} (hn : IsEntryName n) :
    pieces n = [⟨.normal n, 0, n.length⟩] := by
  obtain ⟨hsep, hne, hdot, hdots⟩ := hn
  rw [pieces_of_body, bodyPieces_of_entryName ⟨hsep, hne, hdot, hdots⟩] <;>
    rcases hcs : n.toList with _ | ⟨c, _ | ⟨c', r⟩⟩ <;>
      simp_all [String.ext_iff, @eq_comm Char '/']

/-- A path that ends with a separator is some text followed by that separator. -/
theorem eq_append_sep_of_endsWith {d : String} (h : d.endsWith "/" = true) :
    ∃ e, d = e ++ "/" := by
  rw [← String.endsWith_toSlice, String.Slice.endsWith_string_iff] at h
  obtain ⟨l, hl⟩ := h
  simp only [String.copy_toSlice] at hl
  exact ⟨String.ofList l, by simp [String.ext_iff, ← hl]⟩

/-- A directory path joined with an entry name: the directory's components, then the name, which
ends the text. -/
theorem pieces_join (d : String) {n : String} (hn : IsEntryName n) :
    pieces (join d n) =
      pieces d ++ [⟨.normal n, (join d n).length - n.length, (join d n).length⟩] := by
  have hsepLength : "/".length = 1 := rfl
  unfold join
  rw [if_neg (by simp [not_startsWith_sep hn])]
  split
  · rename_i hd
    by_cases he : d = ""
    · -- the entry name alone
      subst he
      have hempty : pieces "" = [] := by simp [pieces, bodyPieces, segmentsFrom]
      rw [String.empty_append, pieces_of_entryName hn, hempty]
      simp
    · -- the directory path already ends with its separator
      obtain ⟨e, rfl⟩ := eq_append_sep_of_endsWith (by simpa [he] using hd)
      rw [pieces_append_sep_name e hn]
      simp only [String.length_append, hsepLength]
      congr 3
      omega
  · rename_i hd
    have hne : d ≠ "" := by rintro rfl; simp at hd
    rw [pieces_append_sep_name d hn, pieces_append_sep hne]
    simp only [String.length_append, hsepLength]
    congr 3
    omega

theorem components_join (d : String) {n : String} (hn : IsEntryName n) :
    components (join d n) = components d ++ [.normal n] := by
  simp [components, pieces_join d hn]

theorem dirOnly_join (d : String) {n : String} (hn : IsEntryName n) :
    dirOnly (join d n) = false := by
  simp [dirOnly, pieces_join d hn]

/-- Text after a path that is not empty does not change whether the path is absolute. -/
theorem startsWith_sep_append {d : String} (hd : d ≠ "") (x : String) :
    (d ++ x).startsWith "/" = d.startsWith "/" := by
  obtain ⟨c, r, hcs⟩ : ∃ c r, d.toList = c :: r := by
    cases hcs : d.toList with
    | nil => exact absurd (String.toList_inj.mp (by simp [hcs])) hd
    | cons c r => exact ⟨c, r, rfl⟩
  rw [Bool.eq_iff_iff]
  simp [String.startsWith_string_iff, hcs]

theorem startsWith_join (d : String) {n : String} (hn : IsEntryName n) :
    (join d n).startsWith "/" = d.startsWith "/" := by
  unfold join
  rw [if_neg (by simp [not_startsWith_sep hn])]
  by_cases he : d = ""
  · subst he
    simp [not_startsWith_sep hn]
  · split
    · exact startsWith_sep_append he n
    · rw [String.append_assoc, startsWith_sep_append he]

/-- Two entries of one directory have the same components exactly when they have the same
name. -/
theorem components_join_inj (d : String) {a b : String} (ha : IsEntryName a)
    (hb : IsEntryName b) : components (join d a) = components (join d b) ↔ a = b := by
  rw [components_join d ha, components_join d hb]
  simp

/-! ### Lists -/

/-- Removing repeats leaves each value once. -/
theorem nodup_eraseDups {α : Type} [BEq α] [LawfulBEq α] (l : List α) : l.eraseDups.Nodup := by
  -- each step keeps the head and removes its copies from a shorter tail
  induction h : l.length using Nat.strongRecOn generalizing l with
  | _ len ih =>
    cases l with
    | nil => simp
    | cons a as =>
      rw [List.eraseDups_cons]
      have hshorter : (as.filter fun b => !b == a).length < len := by
        have := List.length_filter_le (fun b => !b == a) as
        simp only [List.length_cons] at h
        omega
      refine List.nodup_cons.mpr ⟨?_, ih _ hshorter _ rfl⟩
      simp [List.mem_eraseDups]

namespace FileTree

variable {t t' : FileTree}

/-! ### Walking and resolving -/


/-- A walk to a directory, followed by a name, ends at that name's location in the directory. -/
theorem walk_append_normal {loc L : List String} {cs : List Component} (n : String)
    (h : t.walk loc cs = .ok L) (hL : t.get? L = some .dir) :
    t.walk loc (cs ++ [.normal n]) = .ok (L ++ [n]) := by
  induction cs generalizing loc with
  | nil =>
    simp only [walk, Except.ok.injEq] at h
    subst h
    rfl
  | cons c cs ih =>
    cases c with
    | normal m =>
      cases cs with
      | nil =>
        simp only [walk, Except.ok.injEq] at h
        subst h
        simp [walk, hL]
      | cons c' cs' =>
        -- the name `m` is a directory on the way, in both walks
        simp only [walk] at h
        split at h
        · simp only [List.cons_append, walk]
          rw [‹t.get? (loc ++ [m]) = some .dir›]
          exact ih h
        · simp at h
        · simp at h
    | parent => exact ih h
    | root => exact ih h
    | current => exact ih h

/-- A walk that succeeds in one tree succeeds the same way in a tree with the same directories. -/
theorem walk_congr (hdirs : ∀ l, t.get? l = some .dir ↔ t'.get? l = some .dir)
    {loc L : List String} {cs : List Component} (h : t.walk loc cs = .ok L) :
    t'.walk loc cs = .ok L := by
  induction cs generalizing loc with
  | nil => exact h
  | cons c cs ih =>
    cases c with
    | normal m =>
      cases cs with
      | nil => exact h
      | cons c' cs' =>
        simp only [walk] at h ⊢
        split at h
        · rw [(hdirs _).1 ‹_›]
          exact ih h
        · simp at h
        · simp at h
    | parent => exact ih h
    | root => exact ih h
    | current => exact ih h

/-! ### Locations after a change -/

@[simp]
theorem cwd_set (l : List String) (e : Entry) : (t.set l e).cwd = t.cwd := rfl

@[simp]
theorem cwd_erase (l : List String) : (t.erase l).cwd = t.cwd := rfl

theorem get?_set_of_ne {l loc : List String} (e : Entry) (h : loc ≠ l) :
    (t.set l e).get? loc = t.get? loc := by
  by_cases hloc : loc = []
  · simp [get?, hloc]
  · simp [get?, set, hloc, List.lookup_cons, beq_false_of_ne h, List.lookup_filter_ne]

/-- A location that holds something is one of the tree's entries. -/
theorem mem_entries_of_get? {l : List String} {e : Entry} (h : t.get? l = some e) (hl : l ≠ []) :
    (l, e) ∈ t.entries := by
  simp only [get?, List.isEmpty_iff, hl, if_false] at h
  obtain ⟨l₁, l₂, hentries, -⟩ := List.lookup_eq_some_iff.1 h
  simp [hentries]

theorem get?_erase_self {l : List String} (h : l ≠ []) : (t.erase l).get? l = none := by
  simp [get?, erase, h, List.lookup_filter_ne]

theorem get?_erase_of_ne {l loc : List String} (h : loc ≠ l) :
    (t.erase l).get? loc = t.get? loc := by
  by_cases hloc : loc = []
  · simp [get?, hloc]
  · simp [get?, erase, hloc, h, List.lookup_filter_ne]

/-- Removing a file keeps every directory where it is. -/
theorem get?_erase_eq_dir_iff {l : List String} {text : String} (hl : t.get? l = some (.file text))
    (loc : List String) : (t.erase l).get? loc = some .dir ↔ t.get? loc = some .dir := by
  by_cases h : loc = l
  · subst h
    rw [get?_erase_self (fun h => by simp [get?, h] at hl), hl]
    simp
  · rw [get?_erase_of_ne h]

theorem resolve_eq_ok_iff {p : String} {tg : Target} :
    t.resolve p = .ok tg ↔
      t.walk (t.startOf p) (components p) = .ok tg.loc ∧ tg.dirOnly = dirOnly p := by
  obtain ⟨loc, b⟩ := tg
  simp only [resolve]
  cases t.walk (t.startOf p) (components p) with
  | error e => simp [bind, Except.bind]
  | ok l =>
    simp only [bind, Except.bind, pure, Except.pure, Except.ok.injEq, Target.mk.injEq]
    constructor
    · rintro ⟨rfl, rfl⟩; exact ⟨rfl, rfl⟩
    · rintro ⟨rfl, rfl⟩; exact ⟨rfl, rfl⟩

/-- Resolving only looks at which locations are directories and where relative paths start. -/
theorem resolve_congr (hdirs : ∀ l, t.get? l = some .dir ↔ t'.get? l = some .dir)
    (hcwd : t'.cwd = t.cwd) {p : String} {tg : Target} (h : t.resolve p = .ok tg) :
    t'.resolve p = .ok tg := by
  rw [resolve_eq_ok_iff] at h ⊢
  have hstart : t'.startOf p = t.startOf p := by simp [startOf, hcwd]
  exact ⟨hstart ▸ walk_congr hdirs h.1, h.2⟩

/-- An entry name joined to a path that names a directory names that entry of the directory. -/
theorem resolve_join {d n : String} {L : List String} {b : Bool}
    (hd : t.resolve d = .ok ⟨L, b⟩) (hL : t.get? L = some .dir) (hn : IsEntryName n) :
    t.resolve (join d n) = .ok ⟨L ++ [n], false⟩ := by
  rw [resolve_eq_ok_iff] at hd ⊢
  have hstart : t.startOf (join d n) = t.startOf d := by simp [startOf, startsWith_join d hn]
  rw [hstart, components_join d hn, dirOnly_join d hn]
  exact ⟨walk_append_normal n hd.1 hL, rfl⟩

/-- An entry name names that entry of the current directory. -/
theorem resolve_of_entryName (t : FileTree) {n : String} (hn : IsEntryName n) :
    t.resolve n = .ok ⟨t.cwd ++ [n], false⟩ := by
  rw [resolve_eq_ok_iff]
  have hpieces := pieces_of_entryName hn
  refine ⟨?_, ?_⟩
  · simp [startOf, not_startsWith_sep hn, components, hpieces, walk]
  · simp [dirOnly, hpieces]

/-! ### File operations on a resolved file path -/

section Resolved

variable {p : String} {l : List String}

theorem status_of_resolve (h : t.resolve p = .ok ⟨l, false⟩) :
    t.status p = match t.get? l with
      | some e => .ok e
      | none => .error .notFound := by
  simp only [status, h, bind, Except.bind]
  split <;> simp_all [pure, Except.pure, throw, throwThe, MonadExceptOf.throw]

theorem read_of_resolve (h : t.resolve p = .ok ⟨l, false⟩) :
    t.read p = match t.get? l with
      | some (.file text) => .ok text
      | some .dir => .error .isDirectory
      | none => .error .notFound := by
  simp only [read, status_of_resolve h]
  rcases t.get? l with _ | _ | _ <;> rfl

theorem write_of_resolve (h : t.resolve p = .ok ⟨l, false⟩) (text : String) :
    t.write p text =
      if t.get? l = some .dir then .error .isDirectory else .ok (t.set l (.file text)) := by
  simp only [write, h, bind, Except.bind]
  split <;> simp_all [pure, Except.pure, throw, throwThe, MonadExceptOf.throw]

theorem removeFile_of_resolve (h : t.resolve p = .ok ⟨l, false⟩) :
    t.removeFile p = match t.get? l with
      | some (.file _) => .ok (t.erase l)
      | some .dir => .error .isDirectory
      | none => .error .notFound := by
  simp only [removeFile, h, status_of_resolve h]
  rcases t.get? l with _ | _ | _ <;> rfl

theorem list_of_resolve {b : Bool} (h : t.resolve p = .ok ⟨l, b⟩) (hl : t.get? l = some .dir) :
    t.list p = .ok (t.childrenAt l) := by
  simp [list, status, h, hl, bind, Except.bind, pure, Except.pure]

end Resolved

/-! ### Listing a directory -/

theorem mem_childrenAt_iff_mem_entries {l : List String} {n : String} :
    n ∈ t.childrenAt l ↔ ∃ e, (l ++ [n], e) ∈ t.entries := by
  simp only [childrenAt, List.mem_mergeSort, List.mem_eraseDups, List.mem_filterMap]
  constructor
  · rintro ⟨⟨loc, e⟩, hmem, hname⟩
    cases hlast : loc.getLast? with
    | none => simp [hlast] at hname
    | some m =>
      obtain ⟨ys, rfl⟩ := List.getLast?_eq_some_iff.mp hlast
      simp only [hlast, List.dropLast_concat, beq_iff_eq, Option.ite_none_right_eq_some,
        Option.some.injEq] at hname
      obtain ⟨rfl, rfl⟩ := hname
      exact ⟨e, hmem⟩
  · rintro ⟨e, hmem⟩
    exact ⟨(l ++ [n], e), hmem, by simp⟩

/-- The names listed in a directory are those of the locations in it that hold something. -/
theorem mem_childrenAt {l : List String} {n : String} :
    n ∈ t.childrenAt l ↔ t.get? (l ++ [n]) ≠ none := by
  rw [mem_childrenAt_iff_mem_entries, Option.ne_none_iff_isSome]
  simp [get?, List.lookup_isSome_iff]

theorem nodup_childrenAt (l : List String) : (t.childrenAt l).Nodup :=
  (List.mergeSort_perm _ _).nodup_iff.mpr (nodup_eraseDups _)

end FileTree

end Augment.Files
