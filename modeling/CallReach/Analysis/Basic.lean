import CallReach.Graph.Classify
import CallReach.Graph.Closure
import CallReach.Graph.Witness

/-!
# Analysis

Restricts a program to the module, builds the call graph, finds sources and sinks in it and searches
for paths between them.
-/

namespace CallReach

/-- The result of an analysis. -/
structure Report where
  module : String
  granularity : Granularity
  filter : FilterCounts
  graph : GraphCounts
  classification : ClassificationCounts
  reachableFunctions : Nat
  sources : List SourceReach
  unmatchedSources : List String
  unmatchedSinks : List String
  deriving DecidableEq, Repr

namespace Report

/-- The number of pairs of a source and a sink that it reaches. -/
def reachedPairs (r : Report) : Nat := r.sources.foldr (fun e n => e.reached.length + n) 0

/-- Whether any source reaches any sink. -/
def hasPaths (r : Report) : Bool := r.sources.any fun s => !s.reached.isEmpty

end Report

/-- The call graph of the module that the settings name. -/
def Program.callGraph (p : Program) (c : Settings) : CallGraph :=
  CallGraph.build c (Module.ofProgram c p)

/-- Analyses a program. -/
def analyze (c : Settings) (p : Program) : Report :=
  let g := p.callGraph c
  let k := classify c g.nodes
  { module := c.module
    granularity := c.granularity
    filter := Module.counts c p
    graph := g.counts
    classification := k.counts
    reachableFunctions := (g.reachableFrom k.sources).size
    sources := g.searchAll k.sources k.sinks c.granularity
    unmatchedSources := k.unmatchedSources
    unmatchedSinks := k.unmatchedSinks }

end CallReach
