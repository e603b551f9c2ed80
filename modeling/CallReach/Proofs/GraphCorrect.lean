import CallReach.Graph.Closure
import CallReach.Proofs.ModuleCorrect
import CallReach.Proofs.Walks

/-!
# The edges of call graphs

Which edges a call graph has, said without rows: those between functions of the module that are
calls of the program, and, if closures are linked, those from a function to the closures whose names
go on from its own name. Edges are added one at a time, so each kind of edge follows from one lemma
on `addEdge` and an induction over what is added.

The calls of a module are connected whatever their ends are. That no other names come into the graph
is a fact about the modules of programs (`closed_ofModule`): what `Module.ofProgram` leaves are
calls between functions that it has kept.

## Key results

- `EdgeMap.kind?_connect`, `addEdge_edgeKind?`: what adding an edge does to all edges
- `Closed.addEdge`, `closed_build`: no name comes into the graph of a program but those of its
  functions
- `neighbors_pairwise`: neighbours come in ascending order, each once
- `mem_closurePairs_iff`: closures are found by the beginning of their names
- `build_adj_iff`: the edges of the graph of a module
-/

namespace CallReach

/-- Every record of a map has the name that it is found by. -/
def Named (nodes : Std.TreeMap String Function) : Prop :=
  ∀ (name : String) (f : Function), nodes[name]? = some f → f.name = name

/-- The records of `Module.ofProgram` have the names that they are found by. -/
theorem Module.named_ofProgram (c : Settings) (p : Program) : Named (ofProgram c p).nodes := by
  intro name f hf
  rw [ofProgram_getElem?] at hf
  exact Program.name_of_retained? hf

theorem mem_iff_exists_record {nodes : Std.TreeMap String Function} {name : String} :
    name ∈ nodes ↔ ∃ f, nodes[name]? = some f := by
  rw [Std.TreeMap.mem_iff_isSome_getElem?, Option.isSome_iff_exists]

/-- `values` are the second parts of `toList`. -/
theorem values_eq_map_toList (nodes : Std.TreeMap String Function) :
    nodes.values = nodes.toList.map (·.2) := by
  have hvalues : nodes.values = nodes.foldr (fun _ v l => v :: l) [] := rfl
  rw [hvalues, Std.TreeMap.foldr_eq_foldr_toList, List.foldr_cons_eq_append, List.append_nil]

/-- In a `Named` map, a record is among the values exactly if it is found by its own name. -/
theorem mem_values_iff {nodes : Std.TreeMap String Function} (hn : Named nodes) {f : Function} :
    f ∈ nodes.values ↔ nodes[f.name]? = some f := by
  rw [values_eq_map_toList, List.mem_map]
  constructor
  · rintro ⟨⟨name, f'⟩, hmem, rfl⟩
    have hget := Std.TreeMap.mem_toList_iff_getElem?_eq_some.mp hmem
    rw [hn name f' hget]
    exact hget
  · intro hget
    exact ⟨(f.name, f), Std.TreeMap.mem_toList_iff_getElem?_eq_some.mpr hget, rfl⟩

/-! ## Edges over names -/

namespace EdgeMap

variable {m : EdgeMap} {a b : String} {kind : EdgeKind}

theorem names_nodup (m : EdgeMap) : m.names.toList.Nodup :=
  Std.TreeSet.distinct_toList.imp fun hne => Std.LawfulEqOrd.compare_eq_iff_eq.not.mp hne

/-- Both ends of an edge are `names` of the map. -/
theorem mem_names_of_kind? (h : m.kind? a b = some kind) : a ∈ m.names ∧ b ∈ m.names :=
  m.rows_names a b (Std.TreeMap.mem_iff_isSome_getElem?.mpr (Option.isSome_of_eq_some h))

/-- `connect` gives the edge its kind, and all others keep theirs. -/
theorem kind?_connect (m : EdgeMap) (c : Call) (kind : EdgeKind) (a b : String) :
    (m.connect c kind).kind? a b = if c = ⟨a, b⟩ then some kind else m.kind? a b := by
  obtain ⟨caller, callee⟩ := c
  simp only [kind?, row, connect, Std.TreeMap.getD_insert, Std.LawfulEqOrd.compare_eq_iff_eq,
    Call.mk.injEq]
  by_cases ha : caller = a
  · subst ha
    simp only [if_true, true_and, Std.TreeMap.getElem?_insert, Std.LawfulEqOrd.compare_eq_iff_eq]
  · rw [if_neg ha, if_neg (fun h => ha h.1)]

private theorem kind?_foldl_addName (names : List String) (m : EdgeMap) (a b : String) :
    (names.foldl addName m).kind? a b = m.kind? a b := by
  induction names generalizing m with
  | nil => rfl
  | cons name names ih => exact ih (m.addName name)

/-- To `connect` some pairs gives their edges the kind, and all others keep theirs. -/
private theorem kind?_foldl_connect (calls : List Call) (kind : EdgeKind) (m : EdgeMap)
    (a b : String) :
    (calls.foldl (fun m c => m.connect c kind) m).kind? a b =
      if ⟨a, b⟩ ∈ calls then some kind else m.kind? a b := by
  induction calls generalizing m with
  | nil => simp
  | cons c calls ih =>
    rw [List.foldl_cons, ih, kind?_connect]
    -- The last `connect` of a pair decides; all of them give the same kind.
    by_cases hlater : (⟨a, b⟩ : Call) ∈ calls
    · rw [if_pos hlater, if_pos (List.mem_cons_of_mem c hlater)]
    · simp only [hlater, if_false, List.mem_cons, or_false, eq_comm]

end EdgeMap

namespace CallGraph

variable {g : CallGraph} {a b : String}

/-- `edgeKind?` looks at the edges between functions only. -/
theorem edgeKind?_eq_some_iff {kind : EdgeKind} :
    g.edgeKind? a b = some kind ↔ a ∈ g.nodes ∧ b ∈ g.nodes ∧ g.links.kind? a b = some kind := by
  rw [edgeKind?, Option.ite_none_right_eq_some, Bool.and_eq_true, and_assoc,
    Std.TreeMap.contains_iff_mem, Std.TreeMap.contains_iff_mem]

/-- Between functions, `edgeKind?` is what the names are connected by. -/
theorem edgeKind?_of_mem (ha : a ∈ g.nodes) (hb : b ∈ g.nodes) :
    g.edgeKind? a b = g.links.kind? a b := by
  apply Option.ext
  intro kind
  simp [edgeKind?_eq_some_iff, ha, hb]

/-- An edge leads from one function to another. -/
def Adj (g : CallGraph) (a b : String) : Prop := (g.edgeKind? a b).isSome

/-- `Adj` needs both ends to be functions, and an edge between them. -/
theorem adj_iff : g.Adj a b ↔ a ∈ g.nodes ∧ b ∈ g.nodes ∧ (g.links.kind? a b).isSome := by
  simp only [Adj, Option.isSome_iff_exists, edgeKind?_eq_some_iff, exists_and_left]

/-- Both ends of an edge are functions of the graph. -/
private theorem Adj.mem_nodes (h : g.Adj a b) : a ∈ g.nodes ∧ b ∈ g.nodes :=
  ⟨(adj_iff.mp h).1, (adj_iff.mp h).2.1⟩

/-- Walks along `Adj` from a function of the graph stay in the graph. -/
theorem mem_nodes_of_reaches (h : Relation.ReflTransGen g.Adj a b) (ha : a ∈ g.nodes) :
    b ∈ g.nodes :=
  mem_of_reaches_of_closed (· ∈ g.nodes) (fun _ _ _ hadj => hadj.mem_nodes.2) h ha

/-- `neighbors` come in ascending order, each once. -/
theorem neighbors_pairwise (g : CallGraph) (a : String) :
    (g.neighbors a).Pairwise Text.BytesLt := by
  rw [neighbors]
  split
  · refine Std.TreeMap.ordered_keys.imp ?_
    intro x y hxy
    exact (Text.compare_eq_lt_iff x y).mp hxy
  · exact List.Pairwise.nil

/-- All names of the graph are those of functions. -/
def Closed (g : CallGraph) : Prop := ∀ a ∈ g.links.names, a ∈ g.nodes

/-- In a `Closed` graph, the `neighbors` of a function are the functions that edges lead to. -/
theorem mem_neighbors_iff (hclosed : g.Closed) : b ∈ g.neighbors a ↔ g.Adj a b := by
  rw [neighbors, adj_iff]
  split
  · rename_i ha
    rw [EdgeMap.neighbors, Std.TreeMap.mem_keys, Std.TreeMap.mem_iff_isSome_getElem?]
    refine ⟨fun hb => ⟨Std.TreeMap.contains_iff_mem.mp ha, ?_, hb⟩, fun h => h.2.2⟩
    -- A row may hold any name; that it is the name of a function is what `Closed` says.
    obtain ⟨kind, hkind⟩ := Option.isSome_iff_exists.mp hb
    exact hclosed b (EdgeMap.mem_names_of_kind? hkind).2
  · rename_i ha
    rw [Std.TreeMap.contains_iff_mem] at ha
    simp [ha]

/-- `toDigraph` of a closed graph has the same edges. -/
theorem toDigraph_adj (hclosed : g.Closed) : g.toDigraph.Adj = g.Adj := by
  funext a b
  exact propext (mem_neighbors_iff hclosed)

/-! ## Adding edges -/

/-- `admits` lets an edge in if its ends are known and not connected. -/
theorem admits_iff {c : Call} :
    g.admits c = true ↔ c.caller ∈ g.nodes ∧ c.callee ∈ g.nodes ∧ ¬ g.Adj c.caller c.callee := by
  simp only [admits, Bool.and_eq_true, Std.TreeMap.contains_iff_mem, Option.isNone_iff_eq_none,
    adj_iff, and_assoc, ← Option.not_isSome_iff_eq_none]
  tauto

@[simp] theorem addEdge_nodes (g : CallGraph) (c : Call) (kind : EdgeKind) :
    (g.addEdge c kind).nodes = g.nodes := by
  unfold addEdge
  split <;> rfl

/-- After `addEdge`, an edge that is admitted has its kind, and all others keep theirs, whatever
names they lead between. -/
theorem addEdge_kind? (g : CallGraph) (c : Call) (kind : EdgeKind) (a b : String) :
    (g.addEdge c kind).links.kind? a b =
      if g.admits c = true ∧ c = ⟨a, b⟩ then some kind else g.links.kind? a b := by
  unfold addEdge
  split
  · rename_i hadmits
    simp only [hadmits, true_and]
    exact g.links.kind?_connect c kind a b
  · rename_i hadmits
    rw [if_neg (fun h => hadmits h.1)]

/-- `addEdge_kind?` for the edges between functions. -/
theorem addEdge_edgeKind? (g : CallGraph) (c : Call) (kind : EdgeKind) (a b : String) :
    (g.addEdge c kind).edgeKind? a b =
      if g.admits c = true ∧ c = ⟨a, b⟩ then some kind else g.edgeKind? a b := by
  rw [edgeKind?, addEdge_kind?, addEdge_nodes]
  by_cases hnew : g.admits c = true ∧ c = ⟨a, b⟩
  · obtain ⟨hadmits, rfl⟩ := hnew
    obtain ⟨ha, hb, -⟩ := admits_iff.mp hadmits
    simp [hadmits, Std.TreeMap.mem_iff_contains.mp ha, Std.TreeMap.mem_iff_contains.mp hb]
  · rw [if_neg hnew, if_neg hnew]
    rfl

/-- `addEdge` connects the ends if they are known, and disconnects nothing. -/
private theorem addEdge_adj_iff {c : Call} {kind : EdgeKind} :
    (g.addEdge c kind).Adj a b ↔
      g.Adj a b ∨ (c = ⟨a, b⟩ ∧ a ∈ g.nodes ∧ b ∈ g.nodes) := by
  rw [Adj, addEdge_edgeKind?]
  split
  · rename_i h
    obtain ⟨hadmits, rfl⟩ := h
    obtain ⟨hcaller, hcallee, _⟩ := admits_iff.mp hadmits
    exact ⟨fun _ => .inr ⟨rfl, hcaller, hcallee⟩, fun _ => rfl⟩
  · rename_i h
    refine ⟨.inl, ?_⟩
    rintro (hadj | ⟨rfl, ha, hb⟩)
    · exact hadj
    · -- An edge between known ends that was not admitted was there before.
      by_contra hnot
      exact h ⟨admits_iff.mpr ⟨ha, hb, hnot⟩, rfl⟩

/-- `addEdge` connects functions only, so no other name comes into the graph. -/
theorem Closed.addEdge (h : g.Closed) (c : Call) (kind : EdgeKind) : (g.addEdge c kind).Closed := by
  unfold CallGraph.addEdge
  split
  · rename_i hadmits
    obtain ⟨hcaller, hcallee, -⟩ := admits_iff.mp hadmits
    intro a ha
    rcases EdgeMap.mem_names_connect_iff.mp ha with rfl | rfl | ha
    · exact hcaller
    · exact hcallee
    · exact h a ha
  · exact h

@[simp] theorem foldl_addEdge_nodes (calls : List Call) (kind : EdgeKind) (g : CallGraph) :
    (calls.foldl (fun g c => g.addEdge c kind) g).nodes = g.nodes := by
  induction calls generalizing g with
  | nil => rfl
  | cons c calls ih => rw [List.foldl_cons, ih, addEdge_nodes]

/-- Any number of `addEdge` connect the ends where these are known, and disconnect nothing. -/
private theorem foldl_addEdge_adj_iff (calls : List Call) (kind : EdgeKind) :
    (calls.foldl (fun g c => g.addEdge c kind) g).Adj a b ↔
      g.Adj a b ∨ (⟨a, b⟩ ∈ calls ∧ a ∈ g.nodes ∧ b ∈ g.nodes) := by
  induction calls generalizing g with
  | nil => simp
  | cons c calls ih =>
    rw [List.foldl_cons, ih, addEdge_adj_iff, addEdge_nodes, List.mem_cons, or_assoc,
      ← or_and_right, eq_comm]

/-! ## Calls -/

@[simp] theorem ofModule_nodes (m : Module) : (ofModule m).nodes = m.nodes := rfl

/-- `ofModule` connects the calls of a module, whatever their ends are, and nothing else. -/
theorem ofModule_kind? (m : Module) (a b : String) :
    (ofModule m).links.kind? a b = if ⟨a, b⟩ ∈ m.calls then some .call else none := by
  simp only [ofModule, EdgeMap.kind?_foldl_connect, EdgeMap.kind?_foldl_addName,
    Std.TreeSet.mem_toList]
  congr 1

/-- The edges of `ofModule` between functions are the calls between functions. -/
theorem ofModule_adj_iff {m : Module} :
    (ofModule m).Adj a b ↔ ⟨a, b⟩ ∈ m.calls ∧ a ∈ m.nodes ∧ b ∈ m.nodes := by
  rw [adj_iff, ofModule_kind?, ofModule_nodes]
  split <;> rename_i hcall <;> simp [hcall]

/-- The names of `ofModule` are those of its functions and the ends of its calls. -/
private theorem mem_ofModule_names_iff {m : Module} :
    a ∈ (ofModule m).links.names ↔ a ∈ m.nodes ∨ ∃ c ∈ m.calls, a = c.caller ∨ a = c.callee := by
  simp only [ofModule, EdgeMap.mem_names_foldl_connect_iff, EdgeMap.mem_names_foldl_addName_iff,
    Std.TreeSet.mem_toList, Std.TreeMap.mem_keys]
  rw [or_iff_left (b := a ∈ EdgeMap.empty.names) Std.TreeSet.not_mem_emptyc, or_comm]

/-- The calls that `Module.ofProgram` keeps have functions of the module as ends, so the graph of a
program is `Closed`. -/
theorem closed_ofModule (c : Settings) (p : Program) :
    (ofModule (Module.ofProgram c p)).Closed := by
  intro a ha
  rcases mem_ofModule_names_iff.mp ha with ha | ⟨e, he, hend⟩
  · exact ha
  · -- Here the module is not any module: a call was kept because both of its ends were.
    obtain ⟨-, hcaller, hcallee⟩ := Module.mem_ofProgram_calls_iff.mp he
    rcases hend with rfl | rfl
    · exact Module.mem_ofProgram_iff.mpr hcaller
    · exact Module.mem_ofProgram_iff.mpr hcallee

end CallGraph

/-! ## Closures -/

/-- One name is that of a closure in the function with the other name: the other name has no mark,
and this one goes on from it with a mark. -/
def ClosureOf (outer inner : String) : Prop :=
  closureMark ∉ outer.toList ∧ outer.toList ++ [closureMark] <+: inner.toList

instance (outer inner : String) : Decidable (ClosureOf outer inner) :=
  inferInstanceAs (Decidable (_ ∧ _))

/-- `ClosureOf` in terms of `isClosureName` and `enclosingOf`, by which closures are indexed. -/
theorem closureOf_iff {outer inner : String} :
    ClosureOf outer inner ↔
      Function.isClosureName inner = true ∧ Function.enclosingOf inner = outer := by
  rw [ClosureOf, ← List.mem_and_takeWhile_eq_iff, Function.isClosureName, List.contains_iff_mem,
    Function.enclosingOf, ← String.toList_inj, String.toList_ofList]

/-- The loop of `closureIndex` collects, for every name, the closures with this name around them. -/
theorem foldl_closureIndex_getD (fs : List Function) (index : Std.TreeMap String (List String))
    (outer : String) :
    (fs.foldl (fun index f => index.insert f.enclosingName
        (index.getD f.enclosingName [] ++ [f.name])) index).getD outer [] =
      index.getD outer [] ++ (fs.filter (·.enclosingName = outer)).map (·.name) := by
  induction fs generalizing index with
  | nil => simp
  | cons f fs ih =>
    rw [List.foldl_cons, ih, Std.TreeMap.getD_insert, List.filter_cons]
    simp only [Std.LawfulEqOrd.compare_eq_iff_eq]
    by_cases houter : f.enclosingName = outer
    · subst houter
      simp
    · simp [houter]

/-- `closureIndex` finds the closures in a function. -/
private theorem mem_closureIndex_iff {nodes : Std.TreeMap String Function} (hn : Named nodes)
    {outer inner : String} :
    inner ∈ (closureIndex nodes).getD outer [] ↔
      inner ∈ nodes ∧ Function.isClosureName inner = true ∧ Function.enclosingOf inner = outer := by
  rw [closureIndex, foldl_closureIndex_getD, Std.TreeMap.getD_emptyc, List.nil_append, List.mem_map]
  simp only [List.mem_filter, decide_eq_true_eq, mem_values_iff hn]
  constructor
  · rintro ⟨f, ⟨⟨hget, hclosure⟩, houter⟩, rfl⟩
    exact ⟨mem_iff_exists_record.mpr ⟨f, hget⟩, hclosure, houter⟩
  · rintro ⟨hmem, hclosure, houter⟩
    obtain ⟨f, hget⟩ := mem_iff_exists_record.mp hmem
    have hname := hn inner f hget
    subst hname
    exact ⟨f, ⟨⟨hget, hclosure⟩, houter⟩, rfl⟩

/-- `closurePairs` are the functions with the closures whose names go on from theirs. -/
theorem mem_closurePairs_iff {nodes : Std.TreeMap String Function} (hn : Named nodes)
    {a b : String} :
    ⟨a, b⟩ ∈ closurePairs nodes ↔ a ∈ nodes ∧ b ∈ nodes ∧ ClosureOf a b := by
  simp only [closurePairs, List.mem_flatMap, List.mem_map, List.mem_filter, mem_values_iff hn,
    mem_closureIndex_iff hn, Call.mk.injEq]
  constructor
  · rintro ⟨f, ⟨hget, _⟩, inner, ⟨hinner, hclosure, houter⟩, rfl, rfl⟩
    exact ⟨mem_iff_exists_record.mpr ⟨f, hget⟩, hinner,
      closureOf_iff.mpr ⟨hclosure, houter⟩⟩
  · rintro ⟨ha, hb, hof⟩
    obtain ⟨f, hget⟩ := mem_iff_exists_record.mp ha
    have hname := hn a f hget
    subst hname
    refine ⟨f, ⟨hget, ?_⟩, b, ⟨hb, closureOf_iff.mp hof⟩, rfl, rfl⟩
    -- A function around a closure is no closure itself, so it is not left out.
    have hmark := hof.1
    simpa [Function.isClosure, Function.isClosureName] using hmark

namespace CallGraph

variable {g : CallGraph} {a b : String}

/-- `linkClosures` adds the edges of `closurePairs` one by one. -/
theorem linkClosures_fst (g : CallGraph) :
    g.linkClosures.1 = (closurePairs g.nodes).foldl (fun g c => g.addEdge c .closure) g := by
  unfold linkClosures
  symm
  -- The graph is the first part of the state from the start on.
  show List.foldl _ (Prod.fst (g, 0)) _ = _
  apply List.foldl_hom
  intro state c
  rfl

@[simp] theorem linkClosures_nodes (g : CallGraph) : g.linkClosures.1.nodes = g.nodes := by
  rw [linkClosures_fst, foldl_addEdge_nodes]

/-- `linkClosures` adds no name. -/
theorem Closed.linkClosures (h : g.Closed) : g.linkClosures.1.Closed := by
  rw [linkClosures_fst]
  exact List.foldlRecOn (motive := Closed) _ _ h fun g hg c _ => hg.addEdge c .closure

/-- `linkClosures` connects every function to the closures in it, and disconnects nothing. -/
theorem linkClosures_adj_iff (hn : Named g.nodes) :
    g.linkClosures.1.Adj a b ↔ g.Adj a b ∨ (a ∈ g.nodes ∧ b ∈ g.nodes ∧ ClosureOf a b) := by
  rw [linkClosures_fst, foldl_addEdge_adj_iff, mem_closurePairs_iff hn]
  refine or_congr_right ⟨?_, ?_⟩
  · rintro ⟨h, _⟩
    exact h
  · intro h
    exact ⟨h, h.1, h.2.1⟩

/-! ## The graph of a module -/

@[simp] theorem build_nodes (c : Settings) (m : Module) : (build c m).nodes = m.nodes := by
  unfold build
  dsimp only
  split <;> simp

/-- `build` gives a closed graph, since a module keeps only calls between its functions. -/
theorem closed_build (p : Program) (c d : Settings) : (build d (Module.ofProgram c p)).Closed := by
  unfold build
  dsimp only
  split
  · exact (closed_ofModule c p).linkClosures
  · exact closed_ofModule c p

/-- The edges of `build` are the calls of the module and, if closures are linked, those to
closures. -/
theorem build_adj_iff (c : Settings) {m : Module} (hn : Named m.nodes) :
    (build c m).Adj a b ↔
      a ∈ m.nodes ∧ b ∈ m.nodes ∧ (⟨a, b⟩ ∈ m.calls ∨ c.linkClosures = true ∧ ClosureOf a b) := by
  unfold build
  dsimp only
  split
  · rename_i hlink
    rw [linkClosures_adj_iff (by rwa [ofModule_nodes]), ofModule_adj_iff, ofModule_nodes, hlink]
    tauto
  · rename_i hlink
    rw [ofModule_adj_iff]
    tauto

end CallGraph

end CallReach
