import CallReach.Proofs.AnalysisCorrect
import Mathlib.Data.Finset.Card
import Mathlib.Data.Finset.Union

/-!
# The two searches agree

A path is searched for depth first, one source and one sink at a time; the size of what sources can
reach comes from one traversal that starts at all of them. Both find what walks lead to, so a path
is found exactly if the traversal from its source gets there, and the traversal from all sources
finds what the traversals from single sources find together.

## Key results

- `findPath_function_isSome_iff`, `findPath_file_isSome_iff`: when a path is found
- `size_reachableFrom`: the size of what several roots reach
- `searches_agree`: the two searches in a report
-/

namespace CallReach

namespace CallGraph

variable {g : CallGraph} {s t : String}

/-- `findPath` finds a path exactly if the source is known and a walk from it arrives at the known
sink. -/
private theorem findPath_isSome_iff (hn : Named g.nodes) (hclosed : g.Closed)
    {granularity : Granularity} :
    (g.findPath s t granularity).isSome ↔
      s ∈ g.nodes ∧ t ∈ g.nodes ∧
        ∃ a, Relation.ReflTransGen g.Adj s a ∧ g.Accepted granularity t a := by
  rw [← Option.ne_none_iff_isSome, ne_eq, findPath_eq_none_iff hn hclosed, not_or, not_or, not_not,
    not_not, not_not]

private theorem mem_reachableFrom_singleton_iff (hclosed : g.Closed) {b : String} :
    b ∈ g.reachableFrom [s] ↔ s ∈ g.nodes ∧ Relation.ReflTransGen g.Adj s b := by
  rw [mem_reachableFrom_iff hclosed]
  simp

private theorem mem_nodes_of_mem_reachableFrom (hclosed : g.Closed) {roots : List String}
    {b : String} (h : b ∈ g.reachableFrom roots) : b ∈ g.nodes := by
  obtain ⟨a, _, ha, hreach⟩ := (mem_reachableFrom_iff hclosed).mp h
  exact mem_nodes_of_reaches hreach ha

/-- `findPath` to the sink itself finds a path exactly if `reachableFrom` the source gets there. -/
theorem findPath_function_isSome_iff (hn : Named g.nodes) (hclosed : g.Closed) :
    (g.findPath s t .function).isSome ↔ t ∈ g.reachableFrom [s] := by
  rw [findPath_isSome_iff hn hclosed]
  constructor
  · rintro ⟨hs, _, a, hreach, rfl⟩
    exact (mem_reachableFrom_singleton_iff hclosed).mpr ⟨hs, hreach⟩
  · intro h
    obtain ⟨hs, hreach⟩ := (mem_reachableFrom_singleton_iff hclosed).mp h
    exact ⟨hs, mem_nodes_of_mem_reachableFrom hclosed h, t, hreach, rfl⟩

/-- `findPath` to the file of the sink finds a path exactly if `reachableFrom` the source gets to a
function that is declared there. -/
theorem findPath_file_isSome_iff (hn : Named g.nodes) (hclosed : g.Closed) :
    (g.findPath s t .file).isSome ↔
      ∃ a ∈ g.reachableFrom [s], ∃ f h, g.nodes[a]? = some f ∧ g.nodes[t]? = some h ∧
        f.file = h.file := by
  rw [findPath_isSome_iff hn hclosed]
  constructor
  · rintro ⟨hs, _, a, hreach, hacc⟩
    exact ⟨a, (mem_reachableFrom_singleton_iff hclosed).mpr ⟨hs, hreach⟩, hacc⟩
  · rintro ⟨a, ha, f, h, hf, hh, hfile⟩
    obtain ⟨hs, hreach⟩ := (mem_reachableFrom_singleton_iff hclosed).mp ha
    have ht : t ∈ g.nodes := mem_iff_exists_record.mpr ⟨h, hh⟩
    exact ⟨hs, ht, a, hreach, f, h, hf, hh, hfile⟩

/-- What `reachableFrom` finds for some roots, each by itself, taken together. -/
def surface (g : CallGraph) (roots : List String) : Finset String :=
  roots.toFinset.biUnion fun s => (g.reachableFrom [s]).toList.toFinset

/-- `surface` holds what one traversal from all roots finds. -/
private theorem mem_surface_iff (hclosed : g.Closed) {roots : List String} {b : String} :
    b ∈ g.surface roots ↔ b ∈ g.reachableFrom roots := by
  rw [mem_reachableFrom_iff hclosed]
  simp only [surface, Finset.mem_biUnion, List.mem_toFinset, Std.TreeSet.mem_toList,
    mem_reachableFrom_singleton_iff hclosed]

/-- `reachableFrom` all roots finds as many functions as the traversals from single roots
together. -/
theorem size_reachableFrom (hclosed : g.Closed) (roots : List String) :
    (g.reachableFrom roots).size = (g.surface roots).card := by
  have hset : (g.reachableFrom roots).toList.toFinset = g.surface roots := by
    ext b
    rw [List.mem_toFinset, Std.TreeSet.mem_toList, mem_surface_iff hclosed]
  have hnodup : (g.reachableFrom roots).toList.Nodup := by
    refine Std.TreeSet.ordered_toList.imp ?_
    rintro a b hlt rfl
    rw [Std.ReflOrd.compare_self] at hlt
    cases hlt
  rw [← hset, List.toFinset_card_of_nodup hnodup, Std.TreeSet.length_toList]

end CallGraph

variable {p : Program} {c : Settings}

/-- The `surface` of the sources in terms of links. -/
theorem mem_surface_sources_iff {b : String} :
    b ∈ (p.callGraph c).surface (classify c (p.callGraph c).nodes).sources ↔
      ∃ s, p.retained? c s.name = some s ∧ s.file ∈ c.sources ∧
        Relation.ReflTransGen (p.Link c) s.name b := by
  have hclosed := callGraph_closed p c
  rw [CallGraph.mem_surface_iff hclosed, CallGraph.mem_reachableFrom_iff hclosed, callGraph_adj]
  simp only [classify, mem_declaredIn_iff, mem_callGraph_iff, callGraph_getElem?]
  constructor
  · rintro ⟨a, ⟨s, hs, hfile⟩, _, hreach⟩
    obtain rfl := Program.name_of_retained? hs
    exact ⟨s, hs, hfile, hreach⟩
  · rintro ⟨s, hs, hfile, hreach⟩
    exact ⟨s.name, ⟨s, hs, hfile⟩, by rw [hs]; rfl, hreach⟩

/-- Every function on the path of a witness is reached from the source. -/
theorem IsWitness.reaches {source : Function} {w : Witness} (h : IsWitness p c source w)
    {f : Function} (hf : f ∈ w.path) : Relation.ReflTransGen (p.Link c) source.name f.name := by
  have hhead : (w.path.map (·.name)).head? = some source.name := by
    rw [List.head?_map, h.head, Option.map_some]
  have hchain : (w.path.map (·.name)).IsChain (p.Link c) := by
    rw [List.isChain_map]
    exact h.chain
  exact reaches_of_isChain hhead hchain (List.mem_map_of_mem hf)

/-- Every function on a witness of `analyze` is in the `surface` of the sources. -/
private theorem mem_surface_of_mem_path {e : SourceReach} (he : e ∈ (analyze c p).sources)
    {w : Witness} (hw : w ∈ e.reached) {f : Function} (hf : f ∈ w.path) :
    f.name ∈ (p.callGraph c).surface (classify c (p.callGraph c).nodes).sources := by
  have hwitness := (isEntry_of_mem_sources he).witnesses w hw
  obtain ⟨s, hs, hfile, rfl⟩ := mem_sources_iff.mp he
  exact mem_surface_sources_iff.mpr ⟨s, hs, hfile, hwitness.reaches hf⟩

/-- Where only the sink itself counts, the sinks that some source reaches are those in the `surface`
of the sources. -/
private theorem exists_reaches_iff (hfunction : c.granularity = .function) {t : String} :
    (∃ s, (analyze c p).Reaches s t) ↔
      t ∈ (classify c (p.callGraph c).nodes).sinks ∧
        t ∈ (p.callGraph c).surface (classify c (p.callGraph c).nodes).sources := by
  rw [mem_surface_sources_iff]
  simp only [analyze_reaches_iff, classify, mem_declaredIn_iff, callGraph_getElem?]
  constructor
  · rintro ⟨source, s, h, hs, hsource, hh, hsink, f, hreach, hf, hcounts⟩
    -- With this granularity, to arrive at a sink is to reach the sink itself.
    rw [hfunction, Granularity.Counts] at hcounts
    subst hcounts
    obtain rfl := Program.name_of_retained? hs
    obtain rfl := Program.name_of_retained? hh
    exact ⟨⟨f, hf, hsink⟩, s, hs, hsource, hreach⟩
  · rintro ⟨⟨h, hh, hsink⟩, s, hs, hsource, hreach⟩
    obtain rfl := Program.name_of_retained? hh
    refine ⟨s.name, s, h, hs, hsource, hh, hsink, h, hreach, hh, ?_⟩
    rw [hfunction, Granularity.Counts]

/-- `findPath` and `reachableFrom` agree. In the graph of a program, a path to the sink itself is
found exactly if the traversal from the source finds the sink, and a path to the file of the sink
exactly if the traversal finds a function that is declared there. In a report, the number of
reachable functions is that of what the sources reach together, all functions on witnesses are among
these, and where only the sink itself counts, so are exactly the sinks that are reached. -/
theorem searches_agree :
    (∀ (p : Program) (c d : Settings) (s t : String),
      let g := CallGraph.build d (Module.ofProgram c p)
      ((g.findPath s t .function).isSome ↔ t ∈ g.reachableFrom [s]) ∧
      ((g.findPath s t .file).isSome ↔
        ∃ a ∈ g.reachableFrom [s], ∃ f h, g.nodes[a]? = some f ∧ g.nodes[t]? = some h ∧
          f.file = h.file)) ∧
    ∀ (p : Program) (c : Settings),
      let g := p.callGraph c
      let k := classify c g.nodes
      (analyze c p).reachableFunctions = (g.surface k.sources).card ∧
      (∀ e ∈ (analyze c p).sources, ∀ w ∈ e.reached, ∀ f ∈ w.path,
        f.name ∈ g.surface k.sources) ∧
      (c.granularity = .function →
        ∀ t, (∃ s, (analyze c p).Reaches s t) ↔ t ∈ k.sinks ∧ t ∈ g.surface k.sources) := by
  refine ⟨?_, ?_⟩
  · intro p c d s t g
    have hn : Named g.nodes := CallGraph.named_build p c d
    have hclosed : g.Closed := CallGraph.closed_build p c d
    exact ⟨CallGraph.findPath_function_isSome_iff hn hclosed,
      CallGraph.findPath_file_isSome_iff hn hclosed⟩
  · intro p c g k
    refine ⟨CallGraph.size_reachableFrom (callGraph_closed p c) k.sources, ?_, ?_⟩
    · intro e he w hw f hf
      exact mem_surface_of_mem_path he hw hf
    · intro hfunction t
      exact exists_reaches_iff hfunction

end CallReach
