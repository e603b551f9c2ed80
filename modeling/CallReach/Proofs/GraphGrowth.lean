import CallReach.Proofs.GraphCorrect
import Mathlib.Data.List.Perm.Basic

/-!
# Graphs only grow

What a call graph is after any number of changes. A change adds an edge between two names, whatever
they are, or links the closures, and tells how many edges are new. The number of edges to closures
is kept beside the edges and has to stay right all the way, since the number of calls is the
difference of the two. All changes come down to adding one edge, so `Grows` is proved for one edge
and composed along a run.

## Key results

- `mem_edges_iff`, `edges_pairwise`: which edges are listed, and in which order
- `edges_addEdge_perm`: an edge that is admitted is listed besides the others
- `grows_changeAll`: what a run of changes does
- `consistent_changeAll_ofModule`: what holds after every run of changes
-/

namespace CallReach

/-- One edge comes before another one: by the name of the caller, then by the name of the callee. -/
def Edge.Before (e f : Edge) : Prop :=
  Text.BytesLt e.caller f.caller ∨ e.caller = f.caller ∧ Text.BytesLt e.callee f.callee

theorem Edge.not_before_self (e : Edge) : ¬ e.Before e := by
  rintro (h | ⟨_, h⟩) <;> exact List.lt_irrefl _ h

/-! ## The list of edges -/

namespace EdgeMap

variable {m : EdgeMap}

/-- `kind?` looks an edge up in its row. -/
private theorem kind?_eq_some_iff {a b : String} {kind : EdgeKind} :
    m.kind? a b = some kind ↔ ∃ row, m.rows[a]? = some row ∧ row[b]? = some kind := by
  rw [kind?, row, Std.TreeMap.getD_eq_getD_getElem?]
  cases m.rows[a]? with
  | none => simp
  | some row => simp

/-- `edges` lists an edge exactly if it connects its ends. -/
theorem mem_edges_iff {e : Edge} : e ∈ m.edges ↔ m.kind? e.caller e.callee = some e.kind := by
  rw [kind?_eq_some_iff]
  simp only [edges, List.mem_flatMap, List.mem_map, Prod.exists,
    Std.TreeMap.mem_toList_iff_getElem?_eq_some]
  constructor
  · rintro ⟨a, row, hrow, b, kind, hkind, rfl⟩
    exact ⟨row, hrow, hkind⟩
  · rintro ⟨row, hrow, hkind⟩
    exact ⟨e.caller, row, hrow, e.callee, e.kind, hkind, rfl⟩

/-- `edges` come in ascending order, each once. -/
theorem edges_pairwise (m : EdgeMap) : m.edges.Pairwise Edge.Before := by
  rw [edges, List.pairwise_flatMap]
  constructor
  · -- Within a row the callees ascend.
    rintro ⟨a, row⟩ _
    rw [List.pairwise_map]
    refine Std.TreeMap.ordered_keys_toList.imp ?_
    intro x y hxy
    exact .inr ⟨rfl, (Text.compare_eq_lt_iff x.1 y.1).mp hxy⟩
  · -- From row to row the callers ascend.
    refine Std.TreeMap.ordered_keys_toList.imp ?_
    intro x y hxy e he f hf
    obtain ⟨_, _, rfl⟩ := List.mem_map.mp he
    obtain ⟨_, _, rfl⟩ := List.mem_map.mp hf
    exact .inl ((Text.compare_eq_lt_iff x.1 y.1).mp hxy)

theorem edges_nodup (m : EdgeMap) : m.edges.Nodup := by
  refine m.edges_pairwise.imp ?_
  rintro e f hbefore rfl
  exact e.not_before_self hbefore

theorem edgeCount_eq_length (m : EdgeMap) : m.edgeCount = m.edges.length := by
  rw [edgeCount, edges]
  induction m.rows.toList with
  | nil => rfl
  | cons entry rows ih =>
    rw [List.foldr_cons, ih, List.flatMap_cons, List.length_append, List.length_map,
      Std.TreeMap.length_toList]

end EdgeMap

namespace CallGraph

variable {g : CallGraph}

/-- `edges` lists what `kind?` says. -/
theorem mem_edges_iff {e : Edge} : e ∈ g.edges ↔ g.links.kind? e.caller e.callee = some e.kind :=
  EdgeMap.mem_edges_iff

theorem edges_nodup (g : CallGraph) : g.edges.Nodup := g.links.edges_nodup

theorem edgeCount_eq_length (g : CallGraph) : g.edgeCount = g.edges.length :=
  g.links.edgeCount_eq_length

/-- In a `Closed` graph, all edges connect functions. -/
theorem Closed.kind?_eq (h : g.Closed) (a b : String) : g.links.kind? a b = g.edgeKind? a b := by
  apply Option.ext
  intro kind
  rw [edgeKind?_eq_some_iff]
  constructor
  · intro hkind
    obtain ⟨ha, hb⟩ := EdgeMap.mem_names_of_kind? hkind
    exact ⟨h a ha, h b hb, hkind⟩
  · rintro ⟨-, -, hkind⟩
    exact hkind

/-- `Closed` means that the names of the links are those of the functions. -/
theorem Closed.mem_names_iff (h : g.Closed) {a : String} : a ∈ g.links.names ↔ a ∈ g.nodes :=
  ⟨h a, g.nodes_names a⟩

/-- In a `Closed` graph, there are as many names as functions. -/
private theorem Closed.names_size (h : g.Closed) : g.links.names.size = g.nodes.size := by
  have hperm : g.links.names.toList.Perm g.nodes.keys := by
    rw [List.perm_ext_iff_of_nodup g.links.names_nodup Std.TreeMap.nodup_keys]
    intro a
    rw [Std.TreeSet.mem_toList, Std.TreeMap.mem_keys, h.mem_names_iff]
  rw [← Std.TreeSet.length_toList, hperm.length_eq, Std.TreeMap.length_keys]

/-- Every edge is a call or leads to a closure. -/
private theorem countP_kind_add (edges : List Edge) :
    edges.countP (·.kind = .call) + edges.countP (·.kind = .closure) = edges.length := by
  rw [List.length_eq_countP_add_countP (p := (·.kind = .call)), Nat.add_left_cancel_iff]
  apply List.countP_congr
  intro e _
  cases e.kind <;> simp

/-! ## One edge more -/

theorem addEdge_of_not_admits {c : Call} {kind : EdgeKind} (h : g.admits c = false) :
    g.addEdge c kind = g := by
  rw [addEdge, if_neg (by rw [h]; exact Bool.false_ne_true)]

/-- An edge that is admitted is counted in `closureEdges` if it leads to a closure. -/
private theorem addEdge_closureEdges {c : Call} {kind : EdgeKind} (h : g.admits c = true) :
    (g.addEdge c kind).closureEdges =
      if kind = .closure then g.closureEdges + 1 else g.closureEdges := by
  rw [addEdge, if_pos h]

theorem kind?_of_admits {c : Call} (h : g.admits c = true) :
    g.links.kind? c.caller c.callee = none := by
  simp only [admits, Bool.and_eq_true, Option.isNone_iff_eq_none] at h
  exact h.2

/-- No edge is lost or changed by `addEdge`. -/
private theorem addEdge_kind?_of_some {c : Call} {kind kind' : EdgeKind} {a b : String}
    (h : g.links.kind? a b = some kind') : (g.addEdge c kind).links.kind? a b = some kind' := by
  rw [addEdge_kind?, if_neg, h]
  rintro ⟨hadmits, rfl⟩
  rw [kind?_of_admits hadmits] at h
  cases h

/-- An edge that is admitted is listed in `edges` besides the others. -/
theorem edges_addEdge_perm {c : Call} (kind : EdgeKind) (h : g.admits c = true) :
    (g.addEdge c kind).edges.Perm (⟨c, kind⟩ :: g.edges) := by
  have hnone := kind?_of_admits h
  have hnew : (⟨c, kind⟩ : Edge) ∉ g.edges := by
    rw [mem_edges_iff, hnone]
    exact nofun
  -- Neither list repeats an edge, so it is enough to compare members.
  rw [List.perm_ext_iff_of_nodup (edges_nodup _) (List.nodup_cons.mpr ⟨hnew, g.edges_nodup⟩)]
  intro e
  rw [List.mem_cons, mem_edges_iff, mem_edges_iff, addEdge_kind?]
  obtain ⟨⟨a, b⟩, kind'⟩ := e
  by_cases hends : c = ⟨a, b⟩
  · subst hends
    rw [if_pos ⟨h, rfl⟩, hnone]
    simp [eq_comm]
  · rw [if_neg (fun hnew => hends hnew.2)]
    refine (or_iff_right ?_).symm
    rintro heq
    cases heq
    exact hends rfl

/-! ## Growing -/

/-- `closureEdges` is the number of the edges to closures. -/
def Tallied (g : CallGraph) : Prop := g.closureEdges = g.edges.countP (·.kind = .closure)

/-- `g'` has come from `g` by edges that were added, so many of them. -/
structure Grows (g : CallGraph) (added : Nat) (g' : CallGraph) : Prop where
  nodes : g'.nodes = g.nodes
  kept : ∀ e ∈ g.edges, e ∈ g'.edges
  edgeCount : g'.edgeCount = g.edgeCount + added
  tallied : g.Tallied → g'.Tallied
  closed : g.Closed → g'.Closed

namespace Grows

variable {g₁ g₂ g₃ : CallGraph} {m n : Nat}

/-- `Grows` by nothing. -/
theorem refl (g : CallGraph) : Grows g 0 g := ⟨rfl, fun _ h => h, rfl, id, id⟩

/-- `Grows` adds up along a run. -/
theorem trans (h : Grows g₁ m g₂) (h' : Grows g₂ n g₃) : Grows g₁ (m + n) g₃ where
  nodes := h'.nodes.trans h.nodes
  kept e he := h'.kept e (h.kept e he)
  edgeCount := by rw [h'.edgeCount, h.edgeCount, Nat.add_assoc]
  tallied ht := h'.tallied (h.tallied ht)
  closed hc := h'.closed (h.closed hc)

end Grows

/-- `addEdge` adds one edge if it is admitted, and none otherwise. -/
private theorem grows_addEdge (g : CallGraph) (c : Call) (kind : EdgeKind) :
    Grows g (if g.admits c then 1 else 0) (g.addEdge c kind) := by
  cases h : g.admits c with
  | false =>
    rw [addEdge_of_not_admits h]
    exact Grows.refl g
  | true =>
    -- Only an edge that is new is counted, and it is one more in the list.
    have hperm := edges_addEdge_perm kind h
    refine ⟨addEdge_nodes g c kind, ?_, ?_, ?_, fun hclosed => hclosed.addEdge c kind⟩
    · intro e he
      exact mem_edges_iff.mpr (addEdge_kind?_of_some (mem_edges_iff.mp he))
    · rw [edgeCount_eq_length, edgeCount_eq_length, hperm.length_eq, List.length_cons, if_pos rfl]
    · intro ht
      rw [Tallied, addEdge_closureEdges h, hperm.countP_eq, List.countP_cons, ht]
      cases kind <;> simp

/-- `linkClosures` adds as many edges as it tells. -/
theorem grows_linkClosures (g : CallGraph) : Grows g g.linkClosures.2 g.linkClosures.1 := by
  unfold linkClosures
  -- At every pair the number so far goes with the graph so far.
  refine List.foldlRecOn (motive := fun (state : CallGraph × Nat) => Grows g state.2 state.1) _ _
    (Grows.refl g) ?_
  rintro ⟨g', added⟩ hgrows c _
  have hnumber : (if g'.admits c then added + 1 else added) =
      added + (if g'.admits c then 1 else 0) := by
    split <;> rfl
  dsimp only
  rw [hnumber]
  exact hgrows.trans (grows_addEdge g' c .closure)

/-! ## Runs of changes -/

/-- A change of a graph: to add an edge, or to link closures. -/
inductive Change where
  | edge (c : Call) (kind : EdgeKind)
  | closures
  deriving DecidableEq, Repr

/-- The graph after a change, and the number of edges that the change tells to be new. -/
def change (g : CallGraph) : Change → CallGraph × Nat
  | .edge c kind => (g.addEdge c kind, if g.admits c then 1 else 0)
  | .closures => g.linkClosures

/-- The graph after a run of changes, and the number of edges that they tell to be new. -/
def changeAll (g : CallGraph) : List Change → CallGraph × Nat
  | [] => (g, 0)
  | x :: xs =>
    let step := g.change x
    let rest := step.1.changeAll xs
    (rest.1, step.2 + rest.2)

/-- A `change` adds as many edges as it tells. -/
private theorem grows_change (g : CallGraph) (x : Change) :
    Grows g (g.change x).2 (g.change x).1 := by
  cases x with
  | edge c kind => exact grows_addEdge g c kind
  | closures => exact grows_linkClosures g

/-- A run of changes adds as many edges as they tell. -/
theorem grows_changeAll (g : CallGraph) (xs : List Change) :
    Grows g (g.changeAll xs).2 (g.changeAll xs).1 := by
  induction xs generalizing g with
  | nil => exact Grows.refl g
  | cons x xs ih => exact (grows_change g x).trans (ih (g.change x).1)

/-- A graph and what it tells about itself, for the functions of a module. -/
structure Consistent (m : Module) (g : CallGraph) : Prop where
  nodes : g.nodes = m.nodes
  names : ∀ a, a ∈ g.links.names ↔ a ∈ m.nodes
  ends : ∀ e ∈ g.edges, e.caller ∈ m.nodes ∧ e.callee ∈ m.nodes
  closureEdges : g.closureEdges = g.edges.countP (·.kind = .closure)
  /-- The difference that gives the number of calls is one of natural numbers. -/
  closureEdges_le : g.closureEdges ≤ g.edgeCount
  counts : g.counts =
    ⟨m.nodes.size, g.edges.countP (·.kind = .call), g.edges.countP (·.kind = .closure)⟩
  neighbors_ascending : ∀ a, (g.neighbors a).Pairwise Text.BytesLt
  neighbors : ∀ a b, b ∈ g.neighbors a ↔ ∃ kind, ⟨⟨a, b⟩, kind⟩ ∈ g.edges
  edges_ascending : g.edges.Pairwise Edge.Before
  edges : ∀ a b kind, ⟨⟨a, b⟩, kind⟩ ∈ g.edges ↔ g.edgeKind? a b = some kind

/-- In a `Tallied` graph, all numbers of edges in `counts` are right. -/
theorem Tallied.counts_eq (h : g.Tallied) :
    g.closureEdges ≤ g.edgeCount ∧ g.counts =
      ⟨g.links.names.size, g.edges.countP (·.kind = .call),
        g.edges.countP (·.kind = .closure)⟩ := by
  have hsum := countP_kind_add g.edges
  rw [← edgeCount_eq_length, ← h] at hsum
  refine ⟨by omega, ?_⟩
  rw [counts, ← h, ← hsum, Nat.add_sub_cancel]

/-- A `Tallied` and `Closed` graph over the functions of a module is `Consistent`. -/
private theorem Tallied.consistent {m : Module} (h : g.Tallied) (hclosed : g.Closed)
    (hnodes : g.nodes = m.nodes) :
    Consistent m g where
  nodes := hnodes
  names a := by rw [hclosed.mem_names_iff, hnodes]
  ends e he := by
    obtain ⟨hcaller, hcallee⟩ := EdgeMap.mem_names_of_kind? (mem_edges_iff.mp he)
    rw [← hnodes]
    exact ⟨hclosed _ hcaller, hclosed _ hcallee⟩
  closureEdges := h
  closureEdges_le := h.counts_eq.1
  counts := by rw [h.counts_eq.2, hclosed.names_size, hnodes]
  neighbors_ascending := g.neighbors_pairwise
  neighbors a b := by
    -- In a closed graph, neighbours need not be checked for being nodes.
    rw [mem_neighbors_iff hclosed, Adj, Option.isSome_iff_exists]
    simp only [mem_edges_iff, hclosed.kind?_eq]
  edges_ascending := g.links.edges_pairwise
  edges a b kind := by rw [mem_edges_iff, hclosed.kind?_eq]

/-- `ofModule` has no edge to a closure and counts none. -/
theorem tallied_ofModule (m : Module) : (ofModule m).Tallied := by
  have hnone : ∀ e ∈ (ofModule m).edges, ¬ e.kind = .closure := by
    intro e he hkind
    have hcall := mem_edges_iff.mp he
    rw [ofModule_kind?, hkind] at hcall
    split at hcall <;> cases hcall
  have hzero : (ofModule m).edges.countP (·.kind = .closure) = 0 :=
    List.countP_eq_zero.mpr (by simpa using hnone)
  exact hzero.symm

/-- From the graph of a program on, every run of changes leads to a `Consistent` graph: its names
are those of the functions of the module and hold both ends of every edge, the numbers are right,
and neighbours and edges come in order, each once. From any point of a run to any later one, edges
remain with their kinds, and their number grows by what the changes tell. -/
theorem consistent_changeAll_ofModule (p : Program) (c : Settings) (before after : List Change) :
    let m := Module.ofProgram c p
    let g := ((ofModule m).changeAll before).1
    let g' := (g.changeAll after).1
    Consistent m g' ∧
    (∀ a b kind, g.edgeKind? a b = some kind → g'.edgeKind? a b = some kind) ∧
    g'.edgeCount = g.edgeCount + (g.changeAll after).2 := by
  intro m g g'
  have hbefore := grows_changeAll (ofModule m) before
  have hafter := grows_changeAll g after
  -- That the ends are functions is true at the start because of how the program was restricted.
  have hclosed : g.Closed := hbefore.closed (closed_ofModule c p)
  refine ⟨?_, ?_, hafter.edgeCount⟩
  · have htallied := hafter.tallied (hbefore.tallied (tallied_ofModule m))
    refine htallied.consistent (hafter.closed hclosed) ?_
    rw [hafter.nodes, hbefore.nodes, ofModule_nodes]
  · intro a b kind hkind
    rw [← hclosed.kind?_eq] at hkind
    have hmem : (⟨⟨a, b⟩, kind⟩ : Edge) ∈ g.edges := mem_edges_iff.mpr hkind
    rw [← (hafter.closed hclosed).kind?_eq]
    exact mem_edges_iff.mp (hafter.kept _ hmem)

end CallGraph

end CallReach
