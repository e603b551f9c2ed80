import CallReach.Proofs.AnalysisOrder

/-!
# Linking closures

A function is connected to the closures in it through an index, which is built in one pass over a
module and is asked in another one. What is wanted can be said without an index: hold every name of
the module against every other one, and connect the two if the other name goes on from this one with
a mark. Both ways give the same pairs in the same order, so the edges that are added, and their
number, are those of the plain comparison.

## Key results

- `closurePairs_eq_comparedPairs`: the index finds what comparing all names finds
- `edges_linkClosures_perm`: the edges after linking are those before it and one for each pair that
  was missing
- `linkClosures_of_linked`: where nothing is missing, linking does nothing
- `linkClosures_eq_comparison`: what linking does, how many edges it tells, and what it does the
  second time
-/

namespace CallReach

/-- The pairs of a function and a closure in it, found by holding every name against every other
one. -/
def comparedPairs (nodes : Std.TreeMap String Function) : List Call :=
  nodes.keys.flatMap fun a => (nodes.keys.filter fun b => ClosureOf a b).map fun b => ⟨a, b⟩

variable {nodes : Std.TreeMap String Function}

/-! ## The index against the comparison -/

/-- In a `Named` map, the records have its names, in order. -/
theorem map_name_values (hn : Named nodes) : nodes.values.map (·.name) = nodes.keys := by
  rw [values_eq_map_toList, List.map_map, ← Std.TreeMap.map_fst_toList_eq_keys]
  apply List.map_congr_left
  intro entry hentry
  have hget : nodes[entry.1]? = some entry.2 :=
    Std.TreeMap.mem_toList_iff_getElem?_eq_some.mp hentry
  exact hn entry.1 entry.2 hget

/-- Under the name of a function, `closureIndex` holds the names that go on from it with a mark. -/
private theorem closureIndex_getD (hn : Named nodes) (outer : String) :
    (closureIndex nodes).getD outer [] = nodes.keys.filter fun inner => ClosureOf outer inner := by
  have hindex : (closureIndex nodes).getD outer [] =
      ((nodes.values.filter (·.isClosure)).filter (·.enclosingName = outer)).map (·.name) := by
    rw [closureIndex, foldl_closureIndex_getD, Std.TreeMap.getD_emptyc, List.nil_append]
  rw [hindex, ← map_name_values hn, List.filter_map, List.filter_filter]
  congr 1
  apply List.filter_congr
  intro f _
  rw [Bool.eq_iff_iff]
  simp only [Function.comp_apply, Bool.and_eq_true, decide_eq_true_eq, closureOf_iff]
  exact and_comm

/-- There is no closure in a closure: by `ClosureOf`, the function around both is another one. -/
private theorem filter_closureOf_eq_nil {outer : String} (h : Function.isClosureName outer = true)
    (names : List String) :
    names.filter (fun inner => ClosureOf outer inner) = [] := by
  rw [List.filter_eq_nil_iff]
  intro inner _ hof
  have hmark : closureMark ∉ outer.toList := (of_decide_eq_true hof).1
  exact hmark (List.contains_iff_mem.mp h)

/-- `closurePairs`, which asks the index, are `comparedPairs`, in the same order. -/
theorem closurePairs_eq_comparedPairs (hn : Named nodes) :
    closurePairs nodes = comparedPairs nodes := by
  have hskip : ∀ fs : List Function,
      ((fs.filter (!·.isClosure)).flatMap fun f =>
        ((closureIndex nodes).getD f.name []).map fun b => (⟨f.name, b⟩ : Call)) =
      (fs.map (·.name)).flatMap fun a =>
        (nodes.keys.filter fun b => ClosureOf a b).map fun b => ⟨a, b⟩ := by
    intro fs
    induction fs with
    | nil => rfl
    | cons f fs ih =>
      rw [List.map_cons, List.flatMap_cons, ← ih]
      -- The comparison also looks at closures, and finds nothing in them.
      cases hf : f.isClosure with
      | true =>
        have hnone := filter_closureOf_eq_nil hf nodes.keys
        simp [hf, hnone]
      | false => simp [hf, closureIndex_getD hn]
  rw [closurePairs, comparedPairs, hskip, map_name_values hn]

private theorem nodup_comparedPairs (nodes : Std.TreeMap String Function) :
    (comparedPairs nodes).Nodup := by
  have hkeys : nodes.keys.Nodup := Std.TreeMap.nodup_keys
  rw [comparedPairs, List.nodup_flatMap]
  constructor
  · intro a _
    refine (hkeys.filter _).map ?_
    intro b b' heq
    exact (Call.mk.inj heq).2
  · -- Pairs of different functions differ in the function.
    refine hkeys.imp ?_
    intro a a' hne pair hpair hpair'
    obtain ⟨b, -, rfl⟩ := List.mem_map.mp hpair
    obtain ⟨b', -, heq⟩ := List.mem_map.mp hpair'
    exact hne (Call.mk.inj heq).1.symm

private theorem mem_comparedPairs_iff {a b : String} :
    ⟨a, b⟩ ∈ comparedPairs nodes ↔ a ∈ nodes ∧ b ∈ nodes ∧ ClosureOf a b := by
  simp [comparedPairs]

namespace CallGraph

variable {g : CallGraph}

/-- The `comparedPairs` that no edge connects. -/
def missing (g : CallGraph) : List Call :=
  (comparedPairs g.nodes).filter fun e => (g.edgeKind? e.caller e.callee).isNone

private theorem nodup_missing (g : CallGraph) : g.missing.Nodup :=
  (nodup_comparedPairs g.nodes).filter _

private theorem mem_missing_iff {a b : String} :
    ⟨a, b⟩ ∈ g.missing ↔ g.edgeKind? a b = none ∧ a ∈ g.nodes ∧ b ∈ g.nodes ∧ ClosureOf a b := by
  rw [missing, List.mem_filter, mem_comparedPairs_iff, Option.isNone_iff_eq_none]
  exact and_comm

/-! ## Edges after linking -/

/-- After `linkClosures`, an edge is one from before it, or it leads to a closure and was
`missing`. -/
private theorem linkClosures_edgeKind?_eq_some_iff (hn : Named g.nodes) {a b : String}
    {kind : EdgeKind} :
    g.linkClosures.1.edgeKind? a b = some kind ↔
      g.edgeKind? a b = some kind ∨ kind = .closure ∧ ⟨a, b⟩ ∈ g.missing := by
  rw [linkClosures_fst, foldl_addEdge_edgeKind?_eq_some_iff, mem_closurePairs_iff hn,
    mem_missing_iff, Adj, Option.not_isSome_iff_eq_none]
  tauto

/-- `linkClosures_edgeKind?_eq_some_iff` for all names that are connected, whether they are those of
functions or not. -/
private theorem linkClosures_kind?_eq_some_iff (hn : Named g.nodes) {a b : String}
    {kind : EdgeKind} :
    g.linkClosures.1.links.kind? a b = some kind ↔
      g.links.kind? a b = some kind ∨ kind = .closure ∧ ⟨a, b⟩ ∈ g.missing := by
  rw [linkClosures_fst, foldl_addEdge_kind?_eq_some_iff, mem_closurePairs_iff hn, mem_missing_iff]
  refine or_congr_right (and_congr_right fun _ => ?_)
  constructor
  · rintro ⟨hnone, ⟨ha, hb, hof⟩, -⟩
    exact ⟨(edgeKind?_of_mem ha hb).trans hnone, ha, hb, hof⟩
  · rintro ⟨hnone, ha, hb, hof⟩
    exact ⟨(edgeKind?_of_mem ha hb).symm.trans hnone, ⟨ha, hb, hof⟩, ha, hb⟩

/-- The edges after `linkClosures` are those before it and one for each pair that was `missing`. -/
theorem edges_linkClosures_perm (hn : Named g.nodes) :
    g.linkClosures.1.edges.Perm (g.edges ++ g.missing.map (⟨·, .closure⟩)) := by
  have hnew : (g.missing.map fun c => (⟨c, .closure⟩ : Edge)).Nodup := by
    refine g.nodup_missing.map ?_
    intro c c' heq
    exact (Edge.mk.inj heq).1
  have hapart : g.edges.Disjoint (g.missing.map (⟨·, .closure⟩)) := by
    intro e he hmissing
    obtain ⟨⟨a, b⟩, hpair, rfl⟩ := List.mem_map.mp hmissing
    obtain ⟨hnone, ha, hb, -⟩ := mem_missing_iff.mp hpair
    have hkind : g.links.kind? a b = some .closure := mem_edges_iff.mp he
    rw [← edgeKind?_of_mem ha hb, hnone] at hkind
    cases hkind
  -- Neither side repeats an edge, so it is enough to compare members.
  rw [List.perm_ext_iff_of_nodup (edges_nodup _) (g.edges_nodup.append hnew hapart)]
  intro e
  obtain ⟨⟨a, b⟩, kind⟩ := e
  rw [List.mem_append, mem_edges_iff, mem_edges_iff, linkClosures_kind?_eq_some_iff hn,
    List.mem_map]
  refine or_congr_right ⟨?_, ?_⟩
  · rintro ⟨rfl, hpair⟩
    exact ⟨⟨a, b⟩, hpair, rfl⟩
  · rintro ⟨c, hpair, heq⟩
    cases heq
    exact ⟨rfl, hpair⟩

/-- `linkClosures` tells how many pairs were `missing`. -/
private theorem linkClosures_snd (hn : Named g.nodes) : g.linkClosures.2 = g.missing.length := by
  -- The edges have become more by what is told, and by what was missing.
  have htold : g.linkClosures.1.edgeCount = g.edgeCount + g.linkClosures.2 :=
    (grows_linkClosures g).edgeCount
  have hmissing := (edges_linkClosures_perm hn).length_eq
  rw [List.length_append, List.length_map, ← edgeCount_eq_length, ← edgeCount_eq_length] at hmissing
  omega

/-- Where nothing is `missing`, `linkClosures` does nothing. -/
theorem linkClosures_of_linked (hn : Named g.nodes) (h : g.missing = []) :
    g.linkClosures = (g, 0) := by
  have hrefused : ∀ c ∈ closurePairs g.nodes, g.admits c = false := by
    intro c hc
    rw [closurePairs_eq_comparedPairs hn] at hc
    have hsome : ¬ (g.edgeKind? c.caller c.callee).isNone = true := List.filter_eq_nil_iff.mp h c hc
    rw [← Bool.not_eq_true, admits_iff, Adj]
    simpa using fun _ _ => hsome
  unfold linkClosures
  refine List.foldlRecOn (motive := fun state => state = (g, 0)) _ _ rfl ?_
  rintro state rfl c hc
  have hc := hrefused c hc
  simp [hc, addEdge_of_not_admits hc]

private theorem missing_linkClosures (hn : Named g.nodes) : g.linkClosures.1.missing = [] := by
  rw [List.eq_nil_iff_forall_not_mem]
  rintro ⟨a, b⟩ hpair
  obtain ⟨hnone, ha, hb, hof⟩ := mem_missing_iff.mp hpair
  rw [linkClosures_nodes] at ha hb
  have hadj : g.linkClosures.1.Adj a b := (linkClosures_adj_iff hn).mpr (.inr ⟨ha, hb, hof⟩)
  rw [Adj, hnone] at hadj
  cases hadj

/-- **`linkClosures` does what comparing all names asks for.** The functions stay the same. The
edges are those from before, of the same kind, and an edge to a closure from every name without a
mark to every name that goes on from it with a mark, where none was; each is listed once. The number
that is told is that of the pairs which the comparison finds missing, and to link once more adds
nothing and changes nothing. -/
theorem linkClosures_eq_comparison (g : CallGraph) (hn : Named g.nodes) :
    let g' := g.linkClosures.1
    g'.nodes = g.nodes ∧
    (∀ a b kind, g'.edgeKind? a b = some kind ↔ g.edgeKind? a b = some kind ∨
      kind = .closure ∧ g.edgeKind? a b = none ∧ a ∈ g.nodes ∧ b ∈ g.nodes ∧ ClosureOf a b) ∧
    g'.edges.Perm (g.edges ++ g.missing.map (⟨·, .closure⟩)) ∧
    g.linkClosures.2 = g.missing.length ∧
    g'.linkClosures = (g', 0) := by
  intro g'
  have hn' : Named g'.nodes := by
    rw [linkClosures_nodes]
    exact hn
  -- A second run finds no pair missing.
  refine ⟨linkClosures_nodes g, ?_, edges_linkClosures_perm hn, linkClosures_snd hn,
    linkClosures_of_linked hn' (missing_linkClosures hn)⟩
  intro a b kind
  rw [linkClosures_edgeKind?_eq_some_iff hn, mem_missing_iff]

/-- A function `h` with a closure that it calls already and a closure in that one, a function `h2`
whose name only starts in the same way, and a closure without a function around it: two edges are
missing. -/
theorem linkClosures_eq_comparison_of_nested :
    let c : Settings := ⟨"m", "/", ["/a"], ["/a"], [], true, .file⟩
    let p : Program :=
      ⟨[⟨"m.h", "/a", 1⟩, ⟨"m.h$1", "/a", 2⟩, ⟨"m.h$1$1", "/a", 3⟩, ⟨"m.h2", "/a", 4⟩,
        ⟨"m.h2$1", "/a", 5⟩, ⟨"m.o$1", "/a", 6⟩], [⟨"m.h", "m.h$1"⟩, ⟨"m.h2", "m.h"⟩]⟩
    let g := CallGraph.ofModule (Module.ofProgram c p)
    g.linkClosures.2 = 2 ∧ g.linkClosures.1.edgeKind? "m.h" "m.h$1" = some .call ∧
      g.linkClosures.1.edgeKind? "m.h" "m.h$1$1" = some .closure ∧
      g.linkClosures.1.linkClosures = (g.linkClosures.1, 0) := by
  intro c p g
  have hn : Named g.nodes := by
    rw [ofModule_nodes]
    exact Module.named_ofProgram c p
  obtain ⟨-, hedges, -, hnumber, hagain⟩ := linkClosures_eq_comparison g hn
  have hmissing : g.missing = [⟨"m.h", "m.h$1$1"⟩, ⟨"m.h2", "m.h2$1"⟩] := by decide +kernel
  -- The pair that is a call already is not among the missing ones, and stays a call.
  have hcall : g.edgeKind? "m.h" "m.h$1" = some .call := by decide +kernel
  have hpair : (⟨"m.h", "m.h$1$1"⟩ : Call) ∈ g.missing := by
    rw [hmissing]
    exact List.mem_cons_self
  refine ⟨by rw [hnumber, hmissing]; rfl, (hedges _ _ _).mpr (.inl hcall),
    (hedges _ _ _).mpr (.inr ⟨rfl, ?_⟩), hagain⟩
  exact mem_missing_iff.mp hpair

end CallGraph

end CallReach
