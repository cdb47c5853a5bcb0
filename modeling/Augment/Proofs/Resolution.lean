import Augment.Source.Index
import Augment.Proofs.PatternCache

/-!
# How attribute and type paths resolve

A module's imports are read off its `use` and `extern crate` items in order
(`Source.Imports.collect`), and a relative `use` path is read through the names imported so far.
The order of the items therefore matters only through such reads:

* `Source.Imports.addTree_frame`, `Source.Imports.addItem_frame`: imports made earlier stay in
  front while an item is added, as long as the item neither reads nor binds a name they bind; the
  item then adds what it adds to a module that imports nothing else.
* `Source.Imports.foldl_addItem`: so a module whose items bind every name once and read no name
  another item binds imports the concatenation of what each item imports alone.
* `Source.Imports.collect_perm_resolve`: reordering such items changes no marker and no type
  path, provided glob imports do not compete; `Source.Imports.resolveMarker_reads_rename_in_order`
  shows a use through an `extern crate` rename that resolves differently in the two orders.

A field attribute's marker is the helper identity when the attribute is the single name
`notify_changed` and a derive of the type is `NotifyChanged`, and otherwise what its path
resolves to (`Source.fieldMarkerPath_eq`). The second route needs no derive:
`Source.fieldMarkerPath_eq_notifyChanged_iff` shows that the path `graft::notify_changed`
resolves to the field marker whatever the type derives.
-/

namespace Augment.Rust

namespace UseTree

mutual
/-- The local names a `use` tree binds under a path prefix. -/
def boundNames : UseTree → List String → List String
  | .path ident t, pre => boundNames t (pre ++ [ident])
  | .name ident, pre => if ident == "self" then pre.getLast?.toList else [ident]
  | .rename _ r, _ => [r]
  | .glob, _ => []
  | .group ts, pre => boundNamesList ts pre

/-- The local names the trees of a group bind under a path prefix. -/
def boundNamesList : List UseTree → List String → List String
  | [], _ => []
  | t :: ts, pre => boundNames t pre ++ boundNamesList ts pre
end

mutual
/-- The first segments of the paths a relative `use` tree reads under a path prefix. -/
def heads : UseTree → List String → List String
  | .path ident t, pre => heads t (pre ++ [ident])
  | .name ident, pre => (if ident == "self" then pre else pre ++ [ident]).take 1
  | .rename ident _, pre => (if ident == "self" then pre else pre ++ [ident]).take 1
  | .glob, pre => pre.take 1
  | .group ts, pre => headsList ts pre

/-- The first segments of the paths the trees of a group read under a path prefix. -/
def headsList : List UseTree → List String → List String
  | [], _ => []
  | t :: ts, pre => heads t pre ++ headsList ts pre
end

end UseTree

namespace Item

/-- The local names an item binds: those of a `use` declaration and the rename of an
`extern crate`. -/
def boundNames : Item → List String
  | .use _ t => t.boundNames []
  | .externCrate _ (some r) => [r]
  | _ => []

/-- The names a relative `use` declaration reads its paths through. -/
def heads : Item → List String
  | .use false t => t.heads []
  | _ => []

/-- Two items neither of which reads its paths through a name the other binds. -/
def Independent (i j : Item) : Prop :=
  (∀ h ∈ i.heads, h ∉ j.boundNames) ∧ ∀ h ∈ j.heads, h ∉ i.boundNames

theorem Independent.symm {i j : Item} (h : Independent i j) : Independent j i :=
  ⟨h.2, h.1⟩

end Item

end Augment.Rust

namespace Augment.Source

open Augment.Rust


namespace Imports

variable {E : List (String × String)} {G : List String}

/-- Reading a path looks up its first segment only. -/
theorem expand_frame (im : Imports) (segs : List String)
    (hE : ∀ h ∈ segs.take 1, h ∉ E.map (·.1)) :
    ({ im with names := E ++ im.names, globs := G } : Imports).expand segs = im.expand segs := by
  cases segs with
  | nil => rfl
  | cons first rest =>
    have hfirst : first ∉ E.map (·.1) := hE first (by simp)
    simp only [expand, lookupName, List.lookup_append_of_not_mem hfirst]

theorem qualify_frame (im : Imports) (segs : List String) (absolute : Bool)
    (hE : absolute = false → ∀ h ∈ segs.take 1, h ∉ E.map (·.1)) :
    ({ im with names := E ++ im.names, globs := G } : Imports).qualify segs absolute =
      im.qualify segs absolute := by
  unfold qualify
  cases absolute with
  | true => rfl
  | false => exact expand_frame im segs (hE rfl)

/-- Binding a name that the first entries do not have leaves them in front. -/
theorem bind_frame (im : Imports) (name path : String) (hname : name ∉ E.map (·.1)) :
    ({ im with names := E ++ im.names, globs := G } : Imports).bind name path =
      { im.bind name path with names := E ++ (im.bind name path).names, globs := G } := by
  simp only [bind, List.filter_append, List.filter_fst_ne_of_not_mem hname, List.append_assoc]

mutual
/-- **Imports made before a `use` tree stay in front** while the tree is added, provided the
tree neither reads nor binds a name they bind. -/
theorem addTree_frame (absolute : Bool) : ∀ (im : Imports) (t : UseTree) (pre : List String),
    (absolute = false → ∀ h ∈ t.heads pre, h ∉ E.map (·.1)) →
    (∀ h ∈ t.boundNames pre, h ∉ E.map (·.1)) →
    addTree absolute { im with names := E ++ im.names, globs := G ++ im.globs } t pre =
      { addTree absolute im t pre with
        names := E ++ (addTree absolute im t pre).names,
        globs := G ++ (addTree absolute im t pre).globs }
  | im, .path ident t, pre, hh, hb => by
    simp only [addTree]
    exact addTree_frame absolute im t (pre ++ [ident]) hh hb
  | im, .name ident, pre, hh, hb => by
    simp only [UseTree.heads, UseTree.boundNames] at hh hb
    simp only [addTree]
    by_cases hself : ident = "self"
    · subst hself
      simp only [beq_self_eq_true, if_true] at hh hb ⊢
      cases hlast : pre.getLast? with
      | none => rfl
      | some last =>
        simp only [hlast, Option.toList_some, List.mem_singleton, forall_eq] at hb
        dsimp only
        rw [qualify_frame im pre absolute hh, bind_frame im last _ hb]
        rfl
    · have hne : (ident == "self") = false := beq_eq_false_iff_ne.2 hself
      simp only [hne, Bool.false_eq_true, if_false, List.mem_singleton, forall_eq] at hh hb ⊢
      rw [qualify_frame im (pre ++ [ident]) absolute hh, bind_frame im ident _ hb]
      rfl
  | im, .rename ident r, pre, hh, hb => by
    simp only [UseTree.heads, UseTree.boundNames, List.mem_singleton, forall_eq] at hh hb
    simp only [addTree]
    rw [qualify_frame im _ absolute hh, bind_frame im r _ hb]
    rfl
  | im, .glob, pre, hh, hb => by
    simp only [UseTree.heads] at hh
    simp only [addTree, List.append_assoc]
    rw [qualify_frame im pre absolute hh]
  | im, .group ts, pre, hh, hb => by
    simp only [UseTree.heads, UseTree.boundNames] at hh hb
    simp only [addTree]
    exact addTrees_frame absolute im ts pre hh hb

theorem addTrees_frame (absolute : Bool) : ∀ (im : Imports) (ts : List UseTree)
    (pre : List String),
    (absolute = false → ∀ h ∈ UseTree.headsList ts pre, h ∉ E.map (·.1)) →
    (∀ h ∈ UseTree.boundNamesList ts pre, h ∉ E.map (·.1)) →
    addTree.addTrees absolute { im with names := E ++ im.names, globs := G ++ im.globs } ts pre =
      { addTree.addTrees absolute im ts pre with
        names := E ++ (addTree.addTrees absolute im ts pre).names,
        globs := G ++ (addTree.addTrees absolute im ts pre).globs }
  | im, [], pre, _, _ => rfl
  | im, t :: ts, pre, hh, hb => by
    simp only [UseTree.headsList, UseTree.boundNamesList, List.mem_append] at hh hb
    simp only [addTree.addTrees]
    rw [addTree_frame absolute im t pre (fun ha h hh' => hh ha h (.inl hh'))
      (fun h hb' => hb h (.inl hb'))]
    exact addTrees_frame absolute _ ts pre (fun ha h hh' => hh ha h (.inr hh'))
      (fun h hb' => hb h (.inr hb'))
end

mutual
/-- Adding a `use` tree keeps the crate and the module. -/
theorem addTree_scope (absolute : Bool) : ∀ (im : Imports) (t : UseTree) (pre : List String),
    (addTree absolute im t pre).crateName = im.crateName ∧ (addTree absolute im t pre).ns = im.ns
  | im, .path ident t, pre => by
    simp only [addTree]
    exact addTree_scope absolute im t (pre ++ [ident])
  | im, .name ident, pre => by
    simp only [addTree]
    split
    · split <;> exact ⟨rfl, rfl⟩
    · exact ⟨rfl, rfl⟩
  | im, .rename _ _, pre => ⟨rfl, rfl⟩
  | im, .glob, pre => ⟨rfl, rfl⟩
  | im, .group ts, pre => by
    simp only [addTree]
    exact addTrees_scope absolute im ts pre

theorem addTrees_scope (absolute : Bool) : ∀ (im : Imports) (ts : List UseTree) (pre : List String),
    (addTree.addTrees absolute im ts pre).crateName = im.crateName ∧
      (addTree.addTrees absolute im ts pre).ns = im.ns
  | im, [], pre => ⟨rfl, rfl⟩
  | im, t :: ts, pre => by
    simp only [addTree.addTrees]
    obtain ⟨hc, hn⟩ := addTree_scope absolute im t pre
    obtain ⟨hc', hn'⟩ := addTrees_scope absolute (addTree absolute im t pre) ts pre
    exact ⟨hc'.trans hc, hn'.trans hn⟩
end

/-- Binding a name not yet bound appends it. -/
theorem bind_of_not_mem {im : Imports} {name path : String} (hname : name ∉ im.names.map (·.1)) :
    (im.bind name path).names = im.names ++ [(name, path)] := by
  simp only [bind, List.filter_fst_ne_of_not_mem hname]

/-- Binding a new name keeps the bound names in order and adds it last. -/
theorem bind_keys {im : Imports} {name path : String}
    (hnodup : (im.names.map (·.1) ++ [name]).Nodup) :
    (im.bind name path).names.map (·.1) = im.names.map (·.1) ++ [name] := by
  have hfresh : name ∉ im.names.map (·.1) := fun h =>
    (List.nodup_append.1 hnodup).2.2 name h name (List.mem_singleton_self _) rfl
  rw [bind_of_not_mem hfresh, List.map_append]
  rfl

mutual
/-- A `use` tree whose names are new binds exactly its names, in order. -/
theorem addTree_keys (absolute : Bool) : ∀ (im : Imports) (t : UseTree) (pre : List String),
    (im.names.map (·.1) ++ t.boundNames pre).Nodup →
    (addTree absolute im t pre).names.map (·.1) = im.names.map (·.1) ++ t.boundNames pre
  | im, .path ident t, pre, hnodup => by
    simp only [addTree, UseTree.boundNames] at hnodup ⊢
    exact addTree_keys absolute im t (pre ++ [ident]) hnodup
  | im, .name ident, pre, hnodup => by
    simp only [addTree, UseTree.boundNames] at hnodup ⊢
    by_cases hself : ident = "self"
    · subst hself
      simp only [beq_self_eq_true, if_true] at hnodup ⊢
      cases hlast : pre.getLast? with
      | none => simp
      | some last =>
        simp only [hlast, Option.toList_some] at hnodup ⊢
        exact bind_keys hnodup
    · have hne : (ident == "self") = false := beq_eq_false_iff_ne.2 hself
      simp only [hne, Bool.false_eq_true, if_false] at hnodup ⊢
      exact bind_keys hnodup
  | im, .rename _ r, pre, hnodup => by
    simp only [addTree, UseTree.boundNames] at hnodup ⊢
    exact bind_keys hnodup
  | im, .glob, pre, _ => by simp [addTree, UseTree.boundNames]
  | im, .group ts, pre, hnodup => by
    simp only [addTree, UseTree.boundNames] at hnodup ⊢
    exact addTrees_keys absolute im ts pre hnodup

theorem addTrees_keys (absolute : Bool) : ∀ (im : Imports) (ts : List UseTree) (pre : List String),
    (im.names.map (·.1) ++ UseTree.boundNamesList ts pre).Nodup →
    (addTree.addTrees absolute im ts pre).names.map (·.1) =
      im.names.map (·.1) ++ UseTree.boundNamesList ts pre
  | im, [], pre, _ => by simp [addTree.addTrees, UseTree.boundNamesList]
  | im, t :: ts, pre, hnodup => by
    simp only [addTree.addTrees, UseTree.boundNamesList] at hnodup ⊢
    rw [← List.append_assoc] at hnodup
    have ht := addTree_keys absolute im t pre (List.nodup_append.1 hnodup).1
    rw [addTrees_keys absolute _ ts pre (by rw [ht]; exact hnodup), ht, List.append_assoc]
end

/-- The imports of one item made after others keep theirs in front, when the item neither reads
nor binds a name they bind. -/
theorem addItem_frame (im : Imports) (i : Item)
    (hE : ∀ h ∈ i.heads ++ i.boundNames, h ∉ E.map (·.1)) :
    addItem { im with names := E ++ im.names, globs := G ++ im.globs } i =
      { addItem im i with names := E ++ (addItem im i).names, globs := G ++ (addItem im i).globs } := by
  simp only [List.mem_append] at hE
  cases i with
  | use leadingColon t =>
    simp only [addItem]
    refine addTree_frame leadingColon im t [] (fun habs h hh => hE h (.inl ?_))
      (fun h hb => hE h (.inr hb))
    subst habs
    exact hh
  | externCrate ident rename =>
    cases rename with
    | none => rfl
    | some r =>
      simp only [addItem]
      rw [bind_frame im r ident (hE r (.inr (List.mem_singleton_self r)))]
      rfl
  | decl _ | impl _ | mod _ _ _ | other => rfl

theorem addItem_scope (im : Imports) (i : Item) :
    (addItem im i).crateName = im.crateName ∧ (addItem im i).ns = im.ns := by
  cases i with
  | use leadingColon t => exact addTree_scope leadingColon im t []
  | externCrate ident rename => cases rename <;> exact ⟨rfl, rfl⟩
  | decl _ | impl _ | mod _ _ _ | other => exact ⟨rfl, rfl⟩

theorem addItem_keys (im : Imports) (i : Item) (hnodup : (im.names.map (·.1) ++ i.boundNames).Nodup) :
    (addItem im i).names.map (·.1) = im.names.map (·.1) ++ i.boundNames := by
  cases i with
  | use leadingColon t => exact addTree_keys leadingColon im t [] hnodup
  | externCrate ident rename =>
    cases rename with
    | none => simp [addItem, Item.boundNames]
    | some r =>
      simp only [addItem, Item.boundNames]
      exact bind_keys hnodup
  | decl _ | impl _ | mod _ _ _ | other => simp [addItem, Item.boundNames]

/-- **The run**: folding items whose bound names are new and which read no name another binds
appends each item's own imports, as the item makes them in a module that imports nothing else. -/
theorem foldl_addItem (c ns : String) : ∀ (items : List Item) (E : List (String × String))
    (G : List String),
    (E.map (·.1) ++ items.flatMap Item.boundNames).Nodup →
    items.Pairwise Item.Independent →
    (∀ i ∈ items, ∀ h ∈ i.heads, h ∉ E.map (·.1)) →
    items.foldl addItem { crateName := c, ns, names := E, globs := G } =
      { crateName := c, ns,
        names := E ++ items.flatMap fun i => (addItem { crateName := c, ns } i).names,
        globs := G ++ items.flatMap fun i => (addItem { crateName := c, ns } i).globs }
  | [], E, G, _, _, _ => by simp
  | i :: rest, E, G, hnodup, hindep, hheads => by
    rw [List.flatMap_cons, ← List.append_assoc] at hnodup
    obtain ⟨hnext, hrest⟩ := List.pairwise_cons.1 hindep
    have hkeys : (addItem { crateName := c, ns } i).names.map (·.1) = i.boundNames := by
      have hi : ([] ++ i.boundNames).Nodup := by
        simpa using (List.nodup_append.1 (List.nodup_append.1 hnodup).1).2.1
      simpa using addItem_keys { crateName := c, ns } i hi
    -- the item is added after the earlier ones as if it were alone
    have hstep : addItem { crateName := c, ns, names := E, globs := G } i =
        { crateName := c, ns, names := E ++ (addItem { crateName := c, ns } i).names,
          globs := G ++ (addItem { crateName := c, ns } i).globs } := by
      have hframe := addItem_frame (E := E) (G := G) { crateName := c, ns } i (by
        intro h hh
        rcases List.mem_append.1 hh with hh | hb
        · exact hheads i List.mem_cons_self h hh
        · exact fun hE => (List.nodup_append.1 (List.nodup_append.1 hnodup).1).2.2 h hE h hb rfl)
      obtain ⟨hc, hn⟩ := addItem_scope { crateName := c, ns } i
      simp only [List.append_nil] at hframe
      rw [hframe]
      simp only [hc, hn]
    rw [List.foldl_cons, hstep, foldl_addItem c ns rest _ _ (by rwa [List.map_append, hkeys]) hrest]
    · simp only [List.flatMap_cons, List.append_assoc]
    · intro j hj h hh
      rw [List.map_append, hkeys, List.mem_append, not_or]
      exact ⟨hheads j (List.mem_cons_of_mem i hj) h hh, (hnext j hj).2 h hh⟩

theorem collect_eq (items : List Item) (c ns : String)
    (hnodup : (items.flatMap Item.boundNames).Nodup) (hindep : items.Pairwise Item.Independent) :
    collect items c ns =
      { crateName := c, ns,
        names := items.flatMap fun i => (addItem { crateName := c, ns } i).names,
        globs := items.flatMap fun i => (addItem { crateName := c, ns } i).globs } := by
  unfold collect
  simpa using foldl_addItem c ns items [] [] (by simpa using hnodup) hindep (by simp)

/-- Two imports of one module that bind the same names and whose glob imports find the same
module answer every marker alike. -/
theorem resolveMarker_congr {im im' : Imports} (hc : im.crateName = im'.crateName)
    (hns : im.ns = im'.ns) (hnames : ∀ k, im.lookupName k = im'.lookupName k)
    (p : Path) (markers : MarkerSet)
    (hglobs : ∀ name, im.globs.find? (fun g => markers.isExportModule (.ofString g) &&
      markers.exports name) = im'.globs.find? fun g => markers.isExportModule (.ofString g) &&
        markers.exports name) :
    im.resolveMarker p markers = im'.resolveMarker p markers := by
  have hexpand : ∀ segs, im.expand segs = im'.expand segs := by
    intro segs
    cases segs with
    | nil => rfl
    | cons first rest => simp only [expand, hc, hns, hnames]
  simp only [resolveMarker, hexpand, hnames, hglobs]

theorem resolveLocal_congr {im im' : Imports} (hc : im.crateName = im'.crateName)
    (hns : im.ns = im'.ns) (hnames : ∀ k, im.lookupName k = im'.lookupName k)
    (p : Path) (declared : List String)
    (hglobs : ∀ name, (im.globs.map (· ++ "::" ++ name)).find? declared.contains =
      (im'.globs.map (· ++ "::" ++ name)).find? declared.contains) :
    im.resolveLocal p declared = im'.resolveLocal p declared := by
  have hexpand : ∀ segs, im.expand segs = im'.expand segs := by
    intro segs
    cases segs with
    | nil => rfl
    | cons first rest => simp only [expand, hc, hns, hnames]
  simp only [resolveLocal, hexpand, hnames, hglobs, hns]

/-- The names a module's items bind are those of the imports each item makes alone. -/
theorem keys_flatMap_addItem (c ns : String) : ∀ (items : List Item),
    (items.flatMap Item.boundNames).Nodup →
    (items.flatMap fun i => (addItem { crateName := c, ns } i).names).map (·.1) =
      items.flatMap Item.boundNames
  | [], _ => rfl
  | i :: rest, hnodup => by
    rw [List.flatMap_cons] at hnodup
    have hi := addItem_keys { crateName := c, ns } i (by simpa using (List.nodup_append.1 hnodup).1)
    simp only [List.flatMap_cons, List.map_append]
    rw [keys_flatMap_addItem c ns rest (List.nodup_append.1 hnodup).2.1]
    simpa using congrArg (· ++ rest.flatMap Item.boundNames) hi

/-- **Imports that do not read through each other resolve alike in any order.** Reordering the
items of a module whose `use` and `extern crate` items bind every name once, and none of whose
relative `use` paths starts with a name another item binds, changes neither the names the module
imports nor, up to order, the modules it imports whole; so every marker resolves alike when at
most one glob import is the marker crate's export module, and every type path resolves alike when
no name is supplied by two glob imports. Without the condition on relative paths the order
matters: a `use` through an `extern crate` rename reads the rename only when it comes after it
(`resolveMarker_reads_rename_in_order`). -/
theorem collect_perm_resolve (c ns : String) {items items' : List Item} (hperm : items.Perm items')
    (hnodup : (items.flatMap Item.boundNames).Nodup) (hindep : items.Pairwise Item.Independent) :
    (∀ name, (collect items c ns).lookupName name = (collect items' c ns).lookupName name) ∧
      (collect items c ns).globs.Perm (collect items' c ns).globs ∧
      (∀ (p : Path) (markers : MarkerSet),
        ((collect items c ns).globs.filter fun g => markers.isExportModule (.ofString g)).length ≤ 1 →
          (collect items c ns).resolveMarker p markers =
            (collect items' c ns).resolveMarker p markers) ∧
      (∀ (p : Path) (declared : List String),
        (∀ name, (((collect items c ns).globs.map (· ++ "::" ++ name)).filter
          declared.contains).length ≤ 1) →
          (collect items c ns).resolveLocal p declared =
            (collect items' c ns).resolveLocal p declared) := by
  have hnodup' : (items'.flatMap Item.boundNames).Nodup :=
    (hperm.flatMap_right _).nodup_iff.1 hnodup
  have heq := collect_eq items c ns hnodup hindep
  have heq' := collect_eq items' c ns hnodup' (hindep.perm hperm Item.Independent.symm)
  have hnames : ∀ k, (collect items c ns).lookupName k = (collect items' c ns).lookupName k := by
    intro k
    rw [heq, heq']
    refine List.lookup_eq_of_perm (hperm.flatMap_right _) ?_ k
    rw [keys_flatMap_addItem c ns items hnodup]
    exact hnodup
  have hglobs : (collect items c ns).globs.Perm (collect items' c ns).globs := by
    rw [heq, heq']
    exact hperm.flatMap_right _
  have hc : (collect items c ns).crateName = (collect items' c ns).crateName := by rw [heq, heq']
  have hns : (collect items c ns).ns = (collect items' c ns).ns := by rw [heq, heq']
  refine ⟨hnames, hglobs, fun p markers hone => ?_, fun p declared hone => ?_⟩
  · refine resolveMarker_congr hc hns hnames p markers fun name => ?_
    -- only the export modules of the marker crate count, and there is at most one
    cases hexports : markers.exports name
    · simp only [Bool.and_false]
      rw [List.find?_eq_none.2 (by simp), List.find?_eq_none.2 (by simp)]
    · simp only [Bool.and_true]
      exact List.find?_eq_of_perm hglobs _ hone
  · exact resolveLocal_congr hc hns hnames p declared fun name =>
      List.find?_eq_of_perm (hglobs.map _) _ (hone name)

/-- `use graft::singleton as s;` -/
def useSingleton : Item := .use false (.path "graft" (.rename "singleton" "s"))

/-- `extern crate graft as graft_alias;` -/
def renameGraft : Item := .externCrate "graft" (some "graft_alias")

/-- A `use` of the marker crate and a rename of it, which reads nothing the rename binds, resolve
alike in both orders. -/
theorem collect_perm_resolve_swap :
    [useSingleton, renameGraft].Perm [renameGraft, useSingleton] ∧
      ([useSingleton, renameGraft].flatMap Item.boundNames).Nodup ∧
      [useSingleton, renameGraft].Pairwise Item.Independent ∧
      (∀ name, (collect [useSingleton, renameGraft] "app" "app").lookupName name =
        (collect [renameGraft, useSingleton] "app" "app").lookupName name) ∧
      (collect [useSingleton, renameGraft] "app" "app").globs.Perm
        (collect [renameGraft, useSingleton] "app" "app").globs ∧
      (∀ (p : Path) (markers : MarkerSet),
        ((collect [useSingleton, renameGraft] "app" "app").globs.filter fun g =>
          markers.isExportModule (.ofString g)).length ≤ 1 →
          (collect [useSingleton, renameGraft] "app" "app").resolveMarker p markers =
            (collect [renameGraft, useSingleton] "app" "app").resolveMarker p markers) ∧
      (∀ (p : Path) (declared : List String),
        (∀ name, (((collect [useSingleton, renameGraft] "app" "app").globs.map
          (· ++ "::" ++ name)).filter declared.contains).length ≤ 1) →
          (collect [useSingleton, renameGraft] "app" "app").resolveLocal p declared =
            (collect [renameGraft, useSingleton] "app" "app").resolveLocal p declared) := by
  have hperm : [useSingleton, renameGraft].Perm [renameGraft, useSingleton] := List.Perm.swap _ _ _
  have hnodup : ([useSingleton, renameGraft].flatMap Item.boundNames).Nodup := by
    decide +kernel
  have hindep : [useSingleton, renameGraft].Pairwise Item.Independent := by
    simp [Item.Independent, Item.heads, Item.boundNames, UseTree.heads, UseTree.boundNames,
      useSingleton, renameGraft]
  exact ⟨hperm, hnodup, hindep, collect_perm_resolve "app" "app" hperm hnodup hindep⟩

/-- `use graft_alias::singleton as s;`, which reads the rename of `graft`. -/
def useThroughRename : Item := .use false (.path "graft_alias" (.rename "singleton" "s"))

/-- **The order of imports matters** when a `use` reads a name another item binds, even though
every name is bound once: `s` names the singleton marker only when the rename comes first. -/
theorem resolveMarker_reads_rename_in_order :
    ([useThroughRename, renameGraft].flatMap Item.boundNames).Nodup ∧
      (collect [useThroughRename, renameGraft] "app" "app").resolveMarker (.ofIdent "s" {})
          (.ofCrate defaultMarkerCrate) = ⟨"graft_alias::singleton"⟩ ∧
      (collect [renameGraft, useThroughRename] "app" "app").resolveMarker (.ofIdent "s" {})
          (.ofCrate defaultMarkerCrate) = ⟨"graft::singleton"⟩ := by
  decide +kernel

end Imports

/-! ### Field markers -/

/-- A path of other than one segment is no single name. -/
theorem Path.getIdent_eq_none {p : Path} (h : p.idents.length ≠ 1) : p.getIdent = none := by
  obtain ⟨lc, segs⟩ := p
  simp only [Path.getIdent]
  split
  · simp [Path.idents] at h
  · rfl

/-- Only `NotifyChanged` registers a helper, and only `notify_changed`. -/
theorem helperAttributes_contains (m : MarkerSet) (d : MarkerPath) (h : String) :
    (m.helperAttributes d).contains h = (d == m.notifyChangedDerive && h == "notify_changed") := by
  unfold MarkerSet.helperAttributes
  by_cases hd : d = m.notifyChangedDerive
  · simp only [hd, beq_self_eq_true, if_true, Bool.true_and, List.contains_cons,
      List.contains_nil, Bool.or_false]
  · have hne : (d == m.notifyChangedDerive) = false := beq_eq_false_iff_ne.2 hd
    simp only [hne, Bool.false_eq_true, if_false, Bool.false_and, List.contains_nil]

/-- The helper identity of `notify_changed` is the field marker. -/
theorem helperIdentity_notify_changed (m : MarkerSet) :
    m.helperIdentity "notify_changed" = m.notifyChanged := rfl

/-- **The field marker rule**: a field attribute means the change-notification marker's helper
identity when it is the single name `notify_changed` and a derive of its type is `NotifyChanged`;
otherwise it means what its path resolves to in the module. -/
theorem fieldMarkerPath_eq (im : Imports) (markers : MarkerSet) (derives : List MarkerPath)
    (a : Attribute) :
    fieldMarkerPath im markers derives a =
      if a.content.path.getIdent = some "notify_changed" ∧ markers.notifyChangedDerive ∈ derives then
        markers.notifyChanged
      else im.resolveMarker a.content.path markers := by
  unfold fieldMarkerPath
  cases hname : a.content.path.getIdent with
  | none => simp
  | some name =>
    have hany : (derives.any fun d => (markers.helperAttributes d).contains name) =
        (name == "notify_changed" && derives.contains markers.notifyChangedDerive) := by
      simp only [helperAttributes_contains]
      cases name == "notify_changed"
      · simp
      · rw [Bool.eq_iff_iff]
        simp [List.any_eq_true]
    simp only [Option.bind_some, hany]
    by_cases hn : name = "notify_changed"
    · subst hn
      by_cases hd : markers.notifyChangedDerive ∈ derives <;> simp [hd, helperIdentity_notify_changed]
    · simp [hn]

/-- **A field attribute means the field marker exactly when** it is the helper `notify_changed`
under a `NotifyChanged` derive, or its path resolves to the field marker in its module. The second
route needs no derive: written `graft::notify_changed`, from the root or in a module that does
not rebind `graft`, an attribute means the default marker crate's field marker whatever its type
derives. -/
theorem fieldMarkerPath_eq_notifyChanged_iff (im : Imports) (derives : List MarkerPath)
    (a : Attribute) :
    (∀ markers : MarkerSet, fieldMarkerPath im markers derives a = markers.notifyChanged ↔
        (a.content.path.getIdent = some "notify_changed" ∧ markers.notifyChangedDerive ∈ derives) ∨
          im.resolveMarker a.content.path markers = markers.notifyChanged) ∧
      (a.content.path.idents = ["graft", "notify_changed"] →
        (a.content.path.leadingColon = true ∨ im.lookupName "graft" = none) →
          fieldMarkerPath im (.ofCrate defaultMarkerCrate) derives a =
            (MarkerSet.ofCrate defaultMarkerCrate).notifyChanged) := by
  refine ⟨fun markers => ?_, fun hidents hroot => ?_⟩
  · rw [fieldMarkerPath_eq]
    by_cases hhelper : a.content.path.getIdent = some "notify_changed" ∧
        markers.notifyChangedDerive ∈ derives
    · simp [hhelper]
    · simp only [hhelper, if_false, false_or]
  · -- a path of two segments is no helper name, so it is resolved from the module
    have hget : a.content.path.getIdent = none :=
      Path.getIdent_eq_none (by rw [hidents]; decide)
    rw [fieldMarkerPath_eq, if_neg (by simp [hget])]
    unfold Imports.resolveMarker
    dsimp only
    rw [hidents]
    cases hlc : a.content.path.leadingColon
    · simp only [hlc, Bool.false_eq_true, false_or] at hroot
      -- `graft` is neither `crate`, `self` nor `super`, and the module does not rebind it
      have hcrate : ("graft" == "crate") = false := by decide +kernel
      have hself : ("graft" == "self") = false := by decide +kernel
      have hsuper : ("graft" == "super") = false := by decide +kernel
      simp only [Bool.false_eq_true, if_false, Imports.expand, hroot, hcrate, hself, hsuper,
        Option.getD_none]
      decide +kernel
    · simp only [if_true]
      decide +kernel

/-- `#[graft::notify_changed]`, written without a derive in sight. -/
def qualifiedHelper : Attribute :=
  { style := .outer,
    content := .bare { segments := [{ ident := "graft", pos := {} }, { ident := "notify_changed", pos := {} }] } }

/-- The qualified helper on a type that derives nothing means the field marker. -/
theorem fieldMarkerPath_eq_notifyChanged_iff_qualified :
    qualifiedHelper.content.path.idents = ["graft", "notify_changed"] ∧
      (qualifiedHelper.content.path.leadingColon = true ∨
        ({ crateName := "app", ns := "app" } : Imports).lookupName "graft" = none) ∧
      fieldMarkerPath { crateName := "app", ns := "app" } (.ofCrate defaultMarkerCrate) []
          qualifiedHelper = (MarkerSet.ofCrate defaultMarkerCrate).notifyChanged :=
  ⟨rfl, .inr rfl, (fieldMarkerPath_eq_notifyChanged_iff _ [] qualifiedHelper).2 rfl (.inr rfl)⟩

end Augment.Source
