import CallReach.Proofs.AnalysisCorrect
import CallReach.Proofs.GraphGrowth

/-!
# The order of a program does not matter

A program lists its functions and calls in some order, and may list a call again. Where retained
functions have different names, a report tells nothing of that. The maps of two orders differ
inside, so they are compared by what they hold: `Alike` graphs have the same records and the same
edges, and every part of a report is read off from these.

## Key results

- `build_edgeKind?_eq_some_iff`: the edges of the graph of a module, with their kinds
- `Alike.toDigraph_eq`: the searches run on the same graph
- `analyze_eq_of_sameContent`: what a report depends on
- `analyze_order_irrelevant`: neither order nor repetition shows in a report
-/

namespace CallReach

namespace CallGraph

variable {g g' : CallGraph} {a b : String} {kind : EdgeKind}

/-! ## Edges with their kinds -/

/-- A run of `addEdge` of one kind gives this kind to the edges that are new, and no other edge
changes. -/
theorem foldl_addEdge_kind?_eq_some_iff (calls : List Call) (kind : EdgeKind) {k : EdgeKind} :
    (calls.foldl (fun g c => g.addEdge c kind) g).links.kind? a b = some k ↔
      g.links.kind? a b = some k ∨
        (k = kind ∧ g.links.kind? a b = none ∧ ⟨a, b⟩ ∈ calls ∧ a ∈ g.nodes ∧ b ∈ g.nodes) := by
  induction calls generalizing g with
  | nil => simp
  | cons c calls ih =>
    rw [List.foldl_cons, ih, addEdge_nodes, addEdge_kind?, List.mem_cons]
    by_cases hnew : g.admits c = true ∧ c = ⟨a, b⟩
    · -- This edge is the new one.
      obtain ⟨hadmits, rfl⟩ := hnew
      obtain ⟨ha, hb, -⟩ := admits_iff.mp hadmits
      have hnone : g.links.kind? a b = none := kind?_of_admits hadmits
      rw [if_pos ⟨hadmits, rfl⟩, hnone]
      simp [ha, hb, eq_comm]
    · rw [if_neg hnew]
      -- If the ends are those of `c`, they are unknown or connected already.
      have hother : g.links.kind? a b = none → a ∈ g.nodes → b ∈ g.nodes → c ≠ ⟨a, b⟩ := by
        rintro hnone ha hb rfl
        refine hnew ⟨admits_iff.mpr ⟨ha, hb, ?_⟩, rfl⟩
        simp [adj_iff, hnone]
      grind

/-- `foldl_addEdge_kind?_eq_some_iff` for the edges between functions. -/
theorem foldl_addEdge_edgeKind?_eq_some_iff (calls : List Call) (kind : EdgeKind) {k : EdgeKind} :
    (calls.foldl (fun g c => g.addEdge c kind) g).edgeKind? a b = some k ↔
      g.edgeKind? a b = some k ∨
        (¬ g.Adj a b ∧ k = kind ∧ ⟨a, b⟩ ∈ calls ∧ a ∈ g.nodes ∧ b ∈ g.nodes) := by
  rw [edgeKind?_eq_some_iff, edgeKind?_eq_some_iff, foldl_addEdge_nodes,
    foldl_addEdge_kind?_eq_some_iff, adj_iff, ← Option.not_isSome_iff_eq_none]
  tauto

/-- The edges of `build` with their kinds: calls are calls, and where closures are linked, the edges
to closures that are no calls are of the other kind. -/
theorem build_edgeKind?_eq_some_iff (c : Settings) {m : Module} (hn : Named m.nodes) :
    (build c m).edgeKind? a b = some kind ↔
      a ∈ m.nodes ∧ b ∈ m.nodes ∧
        match kind with
        | .call => ⟨a, b⟩ ∈ m.calls
        | .closure => ⟨a, b⟩ ∉ m.calls ∧ c.linkClosures = true ∧ ClosureOf a b := by
  have hcall : (ofModule m).edgeKind? a b = some kind ↔
      kind = .call ∧ ⟨a, b⟩ ∈ m.calls ∧ a ∈ m.nodes ∧ b ∈ m.nodes := by
    rw [edgeKind?_eq_some_iff, ofModule_kind?, ofModule_nodes, Option.ite_none_right_eq_some,
      Option.some.injEq]
    tauto
  unfold build
  dsimp only
  split
  · rename_i hlink
    -- A closure that is called directly stays a call: its edge was there when closures were linked.
    rw [linkClosures_fst, foldl_addEdge_edgeKind?_eq_some_iff, hcall, ofModule_adj_iff,
      ofModule_nodes, mem_closurePairs_iff hn, hlink]
    cases kind with
    | call =>
      simp only [true_and, reduceCtorEq, false_and, and_false, or_false]
      tauto
    | closure =>
      simp only [reduceCtorEq, false_and, false_or, true_and]
      tauto
  · rename_i hlink
    rw [hcall]
    cases kind with
    | call =>
      simp only [true_and]
      tauto
    | closure => simp [hlink]

/-! ## Graphs by what they hold -/

/-- Two graphs have the same records, the same names and the same edges. Their maps may differ
inside. -/
structure Alike (g g' : CallGraph) : Prop where
  records : ∀ name : String, g.nodes[name]? = g'.nodes[name]?
  names : ∀ a, a ∈ g.links.names ↔ a ∈ g'.links.names
  kinds : ∀ a b, g.links.kind? a b = g'.links.kind? a b

namespace Alike

theorem nodes_equiv (h : Alike g g') : g.nodes.Equiv g'.nodes :=
  Std.TreeMap.Equiv.of_forall_constGet?_eq h.records

private theorem names_equiv (h : Alike g g') : g.links.names.Equiv g'.links.names :=
  Std.TreeSet.Equiv.of_forall_mem_iff h.names

/-- `Alike` graphs have the same neighbours everywhere. -/
private theorem neighbors_eq (h : Alike g g') : g.neighbors = g'.neighbors := by
  funext a
  have hrow : g.links.neighbors a = g'.links.neighbors a :=
    (Std.TreeMap.Equiv.of_forall_constGet?_eq (h.kinds a)).keys_eq
  rw [neighbors, neighbors, h.nodes_equiv.contains_eq, hrow]

/-- `Alike` graphs are the same without their records, so searches on them are the same. -/
theorem toDigraph_eq (h : Alike g g') : g.toDigraph = g'.toDigraph := by
  have hcontains : (fun a => g.nodes.contains a) = (fun a => g'.nodes.contains a) := by
    funext a
    exact h.nodes_equiv.contains_eq
  unfold toDigraph
  simp only [hcontains, h.neighbors_eq, h.names_equiv.toList_eq]

private theorem find?_eq (h : Alike g g') : g.find? = g'.find? := by
  funext name
  exact h.records name

private theorem accepts_eq (h : Alike g g') : g.accepts = g'.accepts := by
  funext granularity sink name
  unfold accepts
  rw [h.find?_eq]

private theorem findPath_eq (h : Alike g g') : g.findPath = g'.findPath := by
  funext source sink granularity
  unfold findPath
  rw [h.nodes_equiv.contains_eq, h.find?_eq, h.toDigraph_eq, h.accepts_eq]

private theorem searchAll_eq (h : Alike g g') : g.searchAll = g'.searchAll := by
  have hwitness : g.witness? = g'.witness? := by
    funext granularity source sink
    unfold witness?
    rw [h.findPath_eq, h.find?_eq]
  funext sources sinks granularity
  unfold searchAll searchSource
  rw [hwitness, h.find?_eq]

private theorem reachableFrom_eq (h : Alike g g') : g.reachableFrom = g'.reachableFrom := by
  funext roots
  unfold reachableFrom
  rw [h.toDigraph_eq]

/-- `Alike` graphs list the same edges. -/
private theorem edges_perm (h : Alike g g') : g.edges.Perm g'.edges := by
  rw [List.perm_ext_iff_of_nodup g.edges_nodup g'.edges_nodup]
  intro e
  rw [mem_edges_iff, mem_edges_iff, h.kinds]

/-- `Alike` graphs that are right about their edges to closures have the same numbers. -/
theorem counts_eq (h : Alike g g') (ht : g.Tallied) (ht' : g'.Tallied) : g.counts = g'.counts := by
  rw [ht.counts_eq.2, ht'.counts_eq.2, h.names_equiv.size_eq, h.edges_perm.countP_eq,
    h.edges_perm.countP_eq]

private theorem classify_eq (h : Alike g g') (c : Settings) :
    classify c g.nodes = classify c g'.nodes := by
  unfold classify declaredIn unmatchedIn
  rw [h.nodes_equiv.toList_eq, h.nodes_equiv.values_eq]

end Alike

private theorem tallied_build (c : Settings) (m : Module) : (build c m).Tallied := by
  unfold build
  dsimp only
  split
  · exact (grows_linkClosures _).tallied (tallied_ofModule m)
  · exact tallied_ofModule m

end CallGraph

/-! ## Programs by what they hold -/

/-- Two programs have the same functions by name and the same calls. -/
structure SameContent (c : Settings) (p q : Program) : Prop where
  retained : ∀ name, p.retained? c name = q.retained? c name
  calls : ∀ e, e ∈ p.calls ↔ e ∈ q.calls

namespace SameContent

variable {c : Settings} {p q : Program}

/-- `Module.ofProgram` holds the same functions for programs with the same content. -/
theorem nodes_equiv (h : SameContent c p q) :
    (Module.ofProgram c p).nodes.Equiv (Module.ofProgram c q).nodes := by
  apply Std.TreeMap.Equiv.of_forall_constGet?_eq
  intro name
  rw [Module.ofProgram_getElem?, Module.ofProgram_getElem?, h.retained]

/-- `Module.ofProgram` holds the same calls for programs with the same content. -/
private theorem calls_equiv (h : SameContent c p q) :
    (Module.ofProgram c p).calls.Equiv (Module.ofProgram c q).calls := by
  apply Std.TreeSet.Equiv.of_forall_mem_iff
  intro e
  rw [Module.mem_ofProgram_calls_iff, Module.mem_ofProgram_calls_iff, h.calls, h.retained,
    h.retained]

/-- Programs with the same content have `Alike` call graphs. -/
private theorem alike (h : SameContent c p q) :
    CallGraph.Alike (p.callGraph c) (q.callGraph c) := by
  have hp := callGraph_closed p c
  have hq := callGraph_closed q c
  have hrecords : ∀ name : String, (p.callGraph c).nodes[name]? = (q.callGraph c).nodes[name]? := by
    intro name
    rw [callGraph_getElem?, callGraph_getElem?, h.retained]
  refine ⟨hrecords, ?_, ?_⟩
  · intro a
    rw [hp.mem_names_iff, hq.mem_names_iff, mem_iff_exists_record, mem_iff_exists_record, hrecords]
  · intro a b
    -- In a closed graph all edges are between functions, and these are known from
    -- `build_edgeKind?_eq_some_iff`.
    rw [hp.kind?_eq, hq.kind?_eq]
    apply Option.ext
    intro kind
    rw [Program.callGraph, Program.callGraph,
      CallGraph.build_edgeKind?_eq_some_iff c (Module.named_ofProgram c p),
      CallGraph.build_edgeKind?_eq_some_iff c (Module.named_ofProgram c q),
      h.nodes_equiv.mem_iff, h.nodes_equiv.mem_iff, h.calls_equiv.mem_iff]

end SameContent

variable {c : Settings} {p q : Program}

/-- `Module.counts` depends on the functions regardless of their order, on the content and on the
number of calls. -/
private theorem counts_eq_of_sameContent (h : SameContent c p q)
    (hperm : q.functions.Perm p.functions) :
    Module.counts c q = { Module.counts c p with totalCalls := q.calls.length } := by
  simp only [Module.counts_eq, h.nodes_equiv.size_eq, h.calls_equiv.size_eq, hperm.length_eq,
    (hperm.filter _).length_eq]

/-- `analyze` depends on a program by its functions regardless of their order, by its content and by
the number of its calls. -/
theorem analyze_eq_of_sameContent (h : SameContent c p q) (hperm : q.functions.Perm p.functions) :
    analyze c q =
      { analyze c p with filter := { Module.counts c p with totalCalls := q.calls.length } } := by
  have halike := h.alike
  have hcounts : (p.callGraph c).counts = (q.callGraph c).counts :=
    halike.counts_eq (CallGraph.tallied_build c _) (CallGraph.tallied_build c _)
  unfold analyze
  simp only [counts_eq_of_sameContent h hperm, hcounts, halike.classify_eq c,
    halike.reachableFrom_eq, halike.searchAll_eq]

/-- With as many calls, the reports of `analyze` are the same. -/
theorem analyze_eq_of_perm (h : SameContent c p q) (hfunctions : q.functions.Perm p.functions)
    (hcalls : q.calls.Perm p.calls) : analyze c q = analyze c p := by
  have htotal : p.calls.length = (Module.counts c p).totalCalls := by rw [Module.counts_eq]
  rw [analyze_eq_of_sameContent h hfunctions, hcalls.length_eq, htotal]
  rfl

/-- Where the functions of `Module.retainedIn` have different names, another order of the functions
leaves the content. -/
theorem sameContent_of_perm (hdistinct : ((Module.retainedIn c p).map (·.name)).Nodup)
    (hperm : q.functions.Perm p.functions) (hcalls : ∀ e, e ∈ q.calls ↔ e ∈ p.calls) :
    SameContent c p q := by
  have hretained : (Module.retainedIn c q).Perm (Module.retainedIn c p) := hperm.filter _
  have hdistinct' : ((Module.retainedIn c q).map (·.name)).Nodup :=
    (hretained.map _).nodup_iff.mpr hdistinct
  refine ⟨?_, fun e => (hcalls e).symm⟩
  intro name
  apply Option.ext
  intro f
  rw [Program.retained?_eq_some_iff hdistinct, Program.retained?_eq_some_iff hdistinct',
    hretained.mem_iff]

/-- Where the functions of `Module.retainedIn` have different names, `analyze` gives the same report
when the functions and the calls of a program come in another order; when calls are repeated, only
their number in the program changes. -/
theorem analyze_order_irrelevant (c : Settings) (p : Program)
    (hdistinct : ((Module.retainedIn c p).map (·.name)).Nodup) :
    (∀ q : Program, q.functions.Perm p.functions → q.calls.Perm p.calls →
      analyze c q = analyze c p) ∧
    ∀ q : Program, q.functions = p.functions → (∀ e, e ∈ q.calls ↔ e ∈ p.calls) →
      analyze c q = { analyze c p with
        filter := { (analyze c p).filter with totalCalls := q.calls.length } } := by
  refine ⟨?_, ?_⟩
  · intro q hfunctions hcalls
    have hsame := sameContent_of_perm hdistinct hfunctions (fun e => hcalls.mem_iff)
    exact analyze_eq_of_perm hsame hfunctions hcalls
  · intro q hfunctions hcalls
    have hperm : q.functions.Perm p.functions := by rw [hfunctions]
    exact analyze_eq_of_sameContent (sameContent_of_perm hdistinct hperm hcalls) hperm

/-- A program with a closure, a call that leads nowhere and a name that is declared again without a
place, listed backwards and with every call repeated. -/
theorem analyze_order_irrelevant_backwards :
    let c : Settings := ⟨"m", "/", ["/a"], ["/c"], [], true, .file⟩
    let p : Program :=
      ⟨[⟨"m.a", "/a", 1⟩, ⟨"m.a$1", "/a", 2⟩, ⟨"m.c", "/c", 1⟩, ⟨"m.a", "", 0⟩],
        [⟨"m.a", "m.b"⟩, ⟨"m.a$1", "m.c"⟩, ⟨"m.c", "m.a"⟩]⟩
    let q : Program := ⟨p.functions.reverse, p.calls.reverse⟩
    let r : Program := ⟨p.functions, p.calls ++ p.calls⟩
    ((Module.retainedIn c p).map (·.name)).Nodup ∧ analyze c q = analyze c p ∧
      analyze c r =
        { analyze c p with filter := { (analyze c p).filter with totalCalls := 6 } } := by
  intro c p q r
  have hdistinct : ((Module.retainedIn c p).map (·.name)).Nodup := by decide +kernel
  obtain ⟨hreorder, hrepeat⟩ := analyze_order_irrelevant c p hdistinct
  refine ⟨hdistinct, hreorder q (List.reverse_perm _) (List.reverse_perm _), hrepeat r rfl ?_⟩
  intro e
  rw [List.mem_append, or_self]

end CallReach
