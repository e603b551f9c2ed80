import CallReach.Proofs.KeywordPaths
import CallReach.Source.Unit
import Mathlib.Data.List.Induction

/-!
# Trees of imports and simple imports

A `use` item is a tree with groups at any depth, and stands for the simple imports at its leaves, in
reading order: each binds one name to one path, and a name that is bound again gets the later path.
A leaf `self` stands for the path above it. So does a leaf `self as a`, but there the path that is
bound goes on with a segment `self`, which leads nowhere.

## Key results

- `addTree_eq`, `addTrees_eq`: what a tree binds, by its simple imports
- `find?_bindAll`: a name is bound to the path of its last import
- `bindAll_eq_iff`: two ways to bind the same imports agree if they do so on the last import of
  every name
- `ofTrees_eq_expanded`: what the imports of a file are, and when they are those of the simple
  imports
- `ofTrees_keeps_self`: a path that goes on with `self`
-/

namespace CallReach.Source

/-! ## Simple imports -/

/-- An import of one path under one name. -/
structure SimpleImport where
  path : List String
  name : String
  /-- Whether it comes from a leaf `self as name` below the path. -/
  renamesSelf : Bool := false
  path_ne_nil : path ≠ []

mutual

/-- The simple imports of a tree below the path `stem`. Imports of everything in a module bind no
name, and neither does `self` with nothing above it. -/
def UseTree.expand (stem : List String) : UseTree → List SimpleImport
  | .path first rest => rest.expand (stem ++ [first.text])
  | .name leaf =>
    if leaf.text = "self" then
      if h : stem = [] then [] else [{ path := stem, name := stem.getLast h, path_ne_nil := h }]
    else [{ path := stem ++ [leaf.text], name := leaf.text, path_ne_nil := by simp }]
  | .rename leaf newName =>
    -- With nothing above it, `self as a` is a simple import already.
    if h : leaf.text = "self" ∧ stem ≠ [] then
      [{ path := stem, name := newName.text, renamesSelf := true, path_ne_nil := h.2 }]
    else [{ path := stem ++ [leaf.text], name := newName.text, path_ne_nil := by simp }]
  | .group trees => expandAll stem trees
  | .glob => []

/-- The simple imports of several trees, in order. -/
def expandAll (stem : List String) : List UseTree → List SimpleImport
  | [] => []
  | tree :: trees => tree.expand stem ++ expandAll stem trees

end

namespace SimpleImport

/-- The path as it is written down to the leaf. -/
def written (s : SimpleImport) : List String := if s.renamesSelf then s.path ++ ["self"] else s.path

private theorem anchor_written (m : ModulePath) (s : SimpleImport) :
    m.anchor s.written = m.anchor s.path ++ if s.renamesSelf then ["self"] else [] := by
  by_cases hself : s.renamesSelf
  · have hanchor : m.anchor? (s.path ++ ["self"]) = (m.anchor? s.path).map (· ++ ["self"]) :=
      m.anchor?_append s.path_ne_nil (by decide)
    rw [written, if_pos hself, if_pos hself, ModulePath.anchor, ModulePath.anchor, hanchor]
    cases m.anchor? s.path <;> rfl
  · simp [written, hself]

end SimpleImport

/-- The last import of a name. -/
def lastImport? (imports : List SimpleImport) (name : String) : Option SimpleImport :=
  imports.reverse.find? (·.name = name)

private theorem lastImport?_concat (imports : List SimpleImport) (s : SimpleImport)
    (name : String) :
    lastImport? (imports ++ [s]) name =
      if s.name = name then some s else lastImport? imports name := by
  by_cases hname : s.name = name
  · simp [lastImport?, hname]
  · simp [lastImport?, hname]

private theorem name_of_lastImport? {imports : List SimpleImport} {name : String} {s : SimpleImport}
    (h : lastImport? imports name = some s) : s.name = name := by
  simpa using List.find?_some h

namespace Imports

/-- Binds the names of simple imports one after another, each to a path that is made from the
import. -/
def bindAll (path : SimpleImport → List String) (i : Imports) (imports : List SimpleImport) :
    Imports :=
  imports.foldl (fun i s => i.bind s.name (path s)) i

mutual

/-- `addTree` binds what `expand` gives, each as it is written. -/
theorem addTree_eq (m : ModulePath) (stem : List String) (i : Imports) (tree : UseTree) :
    addTree m stem i tree = i.bindAll (fun s => m.anchor s.written) (tree.expand stem) := by
  match tree with
  | .path first rest =>
    rw [addTree, UseTree.expand]
    exact addTree_eq m (stem ++ [first.text]) i rest
  | .name leaf =>
    rw [addTree, UseTree.expand]
    split
    · by_cases hstem : stem = []
      · simp [hstem, bindAll]
      · rw [List.getLast?_eq_some_getLast hstem, dif_neg hstem]
        rfl
    · rfl
  | .rename leaf newName =>
    rw [addTree, UseTree.expand]
    split
    · rename_i hself
      rw [hself.1]
      rfl
    · rfl
  | .group trees =>
    rw [addTree, UseTree.expand]
    exact addTrees_eq m stem i trees
  | .glob => rfl

/-- `addTrees` binds what `expandAll` gives, in order. -/
theorem addTrees_eq (m : ModulePath) (stem : List String) (i : Imports) (trees : List UseTree) :
    addTrees m stem i trees = i.bindAll (fun s => m.anchor s.written) (expandAll stem trees) := by
  match trees with
  | [] => rfl
  | tree :: trees =>
    rw [addTrees, expandAll, addTree_eq m stem i tree, addTrees_eq m stem _ trees, bindAll, bindAll,
      bindAll, List.foldl_append]

end

private theorem bindAll_concat (path : SimpleImport → List String) (i : Imports)
    (imports : List SimpleImport) (s : SimpleImport) :
    i.bindAll path (imports ++ [s]) = (i.bindAll path imports).bind s.name (path s) := by
  simp [bindAll]

/-! ## Names that are bound again -/

/-- The last import of every name, the latest first. -/
def latest (imports : List SimpleImport) : List SimpleImport :=
  imports.foldl (fun found s => s :: found.filter (·.name ≠ s.name)) []

private theorem latest_concat (imports : List SimpleImport) (s : SimpleImport) :
    latest (imports ++ [s]) = s :: (latest imports).filter (·.name ≠ s.name) := by
  simp [latest]

/-- `latest` holds the last imports of their names. -/
private theorem mem_latest_iff {imports : List SimpleImport} {s : SimpleImport} :
    s ∈ latest imports ↔ lastImport? imports s.name = some s := by
  induction imports using List.reverseRecOn with
  | nil => simp [latest, lastImport?]
  | append_singleton imports t ih =>
    rw [latest_concat, lastImport?_concat, List.mem_cons, List.mem_filter, ih]
    by_cases hname : t.name = s.name
    · simp [hname, eq_comm]
    · have hne : s ≠ t := fun heq => hname (by rw [heq])
      simp [hname, hne, Ne.symm hname]

/-- `bindAll` leaves the last import of every name, in an order that does not depend on the
paths. -/
private theorem entries_bindAll (path : SimpleImport → List String) (imports : List SimpleImport) :
    (bindAll path {} imports).entries = (latest imports).map fun s => (s.name, path s) := by
  induction imports using List.reverseRecOn with
  | nil => rfl
  | append_singleton imports s ih =>
    rw [bindAll_concat, latest_concat, bind, ih, List.filter_map, List.map_cons]
    rfl

/-- `bind` changes what one name stands for, and nothing else. -/
private theorem find?_bind (i : Imports) (bound name : String) (path : List String) :
    (i.bind bound path).find? name = if bound = name then some path else i.find? name := by
  obtain ⟨entries⟩ := i
  by_cases hname : bound = name
  · simp [bind, find?, hname]
  · -- The entries that are dropped are for another name.
    have hrest : (entries.filter (·.1 ≠ bound)).lookup name = entries.lookup name := by
      induction entries with
      | nil => rfl
      | cons e entries ih =>
        by_cases he : e.1 = bound
        · have hskip : (name == e.1) = false := by simpa [he] using Ne.symm hname
          rw [List.filter_cons_of_neg (by simpa using he), ih, List.lookup_cons, hskip]
        · rw [List.filter_cons_of_pos (by simpa using he), List.lookup_cons, List.lookup_cons, ih]
    have hfirst : (name == bound) = false := by simpa using Ne.symm hname
    simp only [bind, find?, List.lookup_cons, hfirst, hrest, if_neg hname]

/-- `bindAll` binds a name to the path of its last import. -/
theorem find?_bindAll (path : SimpleImport → List String) (imports : List SimpleImport)
    (name : String) :
    (bindAll path {} imports).find? name = (lastImport? imports name).map path := by
  -- By induction from the end, where the last import is.
  induction imports using List.reverseRecOn with
  | nil => rfl
  | append_singleton imports s ih =>
    rw [bindAll_concat, find?_bind, ih, lastImport?_concat]
    split <;> rfl

/-- `bindAll` with two ways to make paths gives the same exactly if the two agree on the last import
of every name. -/
theorem bindAll_eq_iff {path path' : SimpleImport → List String} {imports : List SimpleImport} :
    bindAll path {} imports = bindAll path' {} imports ↔
      ∀ name s, lastImport? imports name = some s → path s = path' s := by
  have hext : ∀ i j : Imports, i = j ↔ i.entries = j.entries := by
    rintro ⟨_⟩ ⟨_⟩
    simp
  rw [hext, entries_bindAll, entries_bindAll, List.map_inj_left]
  simp only [Prod.mk.injEq, true_and, mem_latest_iff]
  constructor
  · intro h name s hs
    cases name_of_lastImport? hs
    exact h s hs
  · intro h s hs
    exact h s.name s hs

/-! ## The imports of a file -/

/-- The trees of a file bind what their simple imports bind, one after another. The path of each is
taken from the root of the package, and the last import of a name counts. An import that renames
`self` is bound to its path followed by `self`, so the names stand for the paths of their simple
imports exactly if no such import is the last one of its name. -/
theorem ofTrees_eq_expanded (m : ModulePath) (trees : List UseTree) :
    let imports := expandAll [] trees
    let bound (s : SimpleImport) := m.anchor s.path ++ if s.renamesSelf then ["self"] else []
    ofTrees m trees = bindAll bound {} imports ∧
    (∀ name, (ofTrees m trees).find? name = (lastImport? imports name).map bound) ∧
    (ofTrees m trees = bindAll (fun s => m.anchor s.path) {} imports ↔
      ∀ name s, lastImport? imports name = some s → s.renamesSelf = false) := by
  intro imports bound
  have hwritten : (fun s : SimpleImport => m.anchor s.written) = bound :=
    funext fun s => s.anchor_written m
  have hbound : ofTrees m trees = bindAll bound {} imports := by
    rw [ofTrees, addTrees_eq, hwritten]
  -- The two ways to bind an import differ by one segment, where `self` is renamed.
  have hsame : ∀ s, bound s = m.anchor s.path ↔ s.renamesSelf = false := by
    intro s
    cases hself : s.renamesSelf <;> simp [bound, hself]
  refine ⟨hbound, ?_, ?_⟩
  · intro name
    rw [hbound, find?_bindAll]
  · rw [hbound, bindAll_eq_iff]
    simp only [hsame]

/-- The import of `crate::db` as `d` binds the path `db::self`, where the simple import binds
`db`. -/
theorem ofTrees_keeps_self :
    ((SourceFile.parse "use crate::db::\x7bself as d\x7d;\n").toOption.map fun source =>
      let expanded := bindAll (fun s => ModulePath.anchor [] s.path) {} (expandAll [] source.uses)
      ((ofTrees [] source.uses).find? "d", expanded.find? "d")) =
      some (some ["db", "self"], some ["db"]) := by
  decide +kernel

end Imports

end CallReach.Source
