import CallReach.Graph.Witness
import CallReach.Proofs.GraphCorrect
import CallReach.Proofs.ReachCorrect
import CallReach.Proofs.SearchCorrect

/-!
# Paths between functions

The answers of the two searches on call graphs: a path from a source to a sink, and the set of
functions that some roots reach. Both are read off from the search on the graph without its records.

## Key results

- `findPath_eq_none_iff`: when there is no path
- `findPath_isLeastPath`: the path that is found is the least one
- `mem_reachableFrom_iff`: the reachable set
- `build_findPath_least`: all about the path, for the graph of a program
-/

namespace CallReach.CallGraph

variable {g : CallGraph} {source sink a : String} {granularity : Granularity}

/-- Arriving at a function counts as reaching the sink: it is declared in the same file as the sink,
or is the sink itself. -/
def Accepted (g : CallGraph) (granularity : Granularity) (sink a : String) : Prop :=
  match granularity with
  | .file => ∃ f t, g.nodes[a]? = some f ∧ g.nodes[sink]? = some t ∧ f.file = t.file
  | .function => a = sink

/-- What `accepts` accepts for a known sink is `Accepted`. -/
private theorem accepts_iff (hn : Named g.nodes) {t : Function} (ht : g.nodes[sink]? = some t) :
    g.accepts granularity t a = true ↔ g.Accepted granularity sink a := by
  cases granularity with
  | file =>
    rw [accepts, Accepted, find?, Option.any_eq_true]
    constructor
    · rintro ⟨f, hf, hfile⟩
      exact ⟨f, t, hf, ht, of_decide_eq_true hfile⟩
    · rintro ⟨f, t', hf, ht', hfile⟩
      -- The sink has one record only.
      rw [ht] at ht'
      cases ht'
      exact ⟨f, hf, decide_eq_true hfile⟩
  | function =>
    rw [accepts, Accepted, hn sink t ht, decide_eq_true_eq]

/-- `findPath` searches only between functions of the graph. -/
private theorem findPath_eq_none_of_not_mem (h : source ∉ g.nodes ∨ sink ∉ g.nodes) :
    g.findPath source sink granularity = none := by
  unfold findPath
  split
  · rename_i t hsource hsink
    rw [find?] at hsink
    rcases h with h | h
    · exact absurd (Std.TreeMap.mem_iff_contains.mpr hsource) h
    · exact absurd (mem_iff_exists_record.mpr ⟨t, hsink⟩) h
  · rfl

/-- Between functions of the graph, `findPath` is the search on `toDigraph`. -/
theorem findPath_eq_digraph {t : Function} (hsource : source ∈ g.nodes)
    (ht : g.nodes[sink]? = some t) :
    g.findPath source sink granularity = g.toDigraph.findPath (g.accepts granularity t) source := by
  unfold findPath
  rw [Std.TreeMap.mem_iff_contains.mp hsource, find?, ht]

/-- A path that `findPath` finds leads between functions of the graph. -/
theorem mem_of_findPath_eq_some {path : List String}
    (h : g.findPath source sink granularity = some path) : source ∈ g.nodes ∧ sink ∈ g.nodes := by
  by_contra hnot
  rw [not_and_or] at hnot
  rw [findPath_eq_none_of_not_mem hnot] at h
  cases h

/-- `findPath` finds nothing exactly if an end is unknown or no walk from the source arrives at the
sink. -/
theorem findPath_eq_none_iff (hn : Named g.nodes) (hclosed : g.Closed) :
    g.findPath source sink granularity = none ↔
      source ∉ g.nodes ∨ sink ∉ g.nodes ∨
        ¬ ∃ a, Relation.ReflTransGen g.Adj source a ∧ g.Accepted granularity sink a := by
  by_cases hsource : source ∈ g.nodes
  · by_cases hsink : sink ∈ g.nodes
    · obtain ⟨t, ht⟩ := mem_iff_exists_record.mp hsink
      rw [findPath_eq_digraph hsource ht, Digraph.findPath_eq_none_iff, toDigraph_adj hclosed]
      simp only [accepts_iff hn ht, hsource, hsink, not_true_eq_false, false_or]
    · simp only [findPath_eq_none_of_not_mem (.inr hsink), hsink, not_false_eq_true, true_or,
        or_true]
  · simp only [findPath_eq_none_of_not_mem (.inl hsource), hsource, not_false_eq_true, true_or]

/-- The path that `findPath` finds is the least one. -/
theorem findPath_isLeastPath (hn : Named g.nodes) (hclosed : g.Closed) {path : List String}
    (h : g.findPath source sink granularity = some path) :
    IsLeastPath g.Adj (g.Accepted granularity sink) source path := by
  obtain ⟨hsource, hsink⟩ := mem_of_findPath_eq_some h
  obtain ⟨t, ht⟩ := mem_iff_exists_record.mp hsink
  rw [findPath_eq_digraph hsource ht] at h
  have hleast := Digraph.findPath_isLeastPath (g.neighbors_pairwise ·) h
  simpa only [toDigraph_adj hclosed, accepts_iff hn ht] using hleast

/-- No function before the last one of the path is `Accepted`. -/
theorem findPath_not_accepted (hn : Named g.nodes) {path : List String}
    (h : g.findPath source sink granularity = some path) :
    ∀ a ∈ path.dropLast, ¬ g.Accepted granularity sink a := by
  obtain ⟨hsource, hsink⟩ := mem_of_findPath_eq_some h
  obtain ⟨t, ht⟩ := mem_iff_exists_record.mp hsink
  rw [findPath_eq_digraph hsource ht] at h
  intro a ha hacc
  have hrej := Digraph.findPath_not_accepted h a ha
  rw [(accepts_iff hn ht).mpr hacc] at hrej
  cases hrej

/-- `reachableFrom` holds what is reached from the roots that are functions of the graph. -/
theorem mem_reachableFrom_iff (hclosed : g.Closed) {roots : List String} {b : String} :
    b ∈ g.reachableFrom roots ↔
      ∃ a ∈ roots, a ∈ g.nodes ∧ Relation.ReflTransGen g.Adj a b := by
  rw [reachableFrom, Digraph.mem_reachableFrom_iff, toDigraph_adj hclosed]
  simp only [toDigraph, Std.TreeMap.mem_iff_contains]

/-- `build` keeps the records of the module under their own names. -/
theorem named_build (p : Program) (c d : Settings) :
    Named (build d (Module.ofProgram c p)).nodes := by
  rw [build_nodes]
  exact Module.named_ofProgram c p

/-- In the graph of a program, `findPath` finds nothing exactly if an end is unknown or no walk from
the source arrives at the sink. Otherwise it finds the least path, and no function on it before the
last one is `Accepted`. -/
theorem build_findPath_least (p : Program) (c d : Settings) (source sink : String)
    (granularity : Granularity) :
    let g := build d (Module.ofProgram c p)
    (g.findPath source sink granularity = none ↔
      source ∉ g.nodes ∨ sink ∉ g.nodes ∨
        ¬ ∃ a, Relation.ReflTransGen g.Adj source a ∧ g.Accepted granularity sink a) ∧
    ∀ path, g.findPath source sink granularity = some path →
      IsLeastPath g.Adj (g.Accepted granularity sink) source path ∧
      ∀ a ∈ path.dropLast, ¬ g.Accepted granularity sink a := by
  intro g
  have hn : Named g.nodes := named_build p c d
  have hclosed : g.Closed := closed_build p c d
  refine ⟨findPath_eq_none_iff hn hclosed, ?_⟩
  intro path hpath
  exact ⟨findPath_isLeastPath hn hclosed hpath, findPath_not_accepted hn hpath⟩

end CallReach.CallGraph
