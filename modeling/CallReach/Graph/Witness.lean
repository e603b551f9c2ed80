import CallReach.Graph.Basic

/-!
# Witnesses

For a source and a sink, a path that shows that one reaches the other. Among all paths the search
finds the one that is first by the names on it.
-/

namespace CallReach

/-- A sink that is reached, and a path from the source to it or to another function of its file. -/
structure Witness where
  sink : Function
  path : List Function
  deriving DecidableEq, Repr

/-- What a source reaches. -/
structure SourceReach where
  source : Function
  reached : List Witness
  deriving DecidableEq, Repr

namespace CallGraph

/-- Whether arriving at a function counts as reaching the sink. -/
def accepts (g : CallGraph) (granularity : Granularity) (sink : Function) (name : String) : Bool :=
  match granularity with
  | .file => (g.find? name).any (·.file = sink.file)
  | .function => name = sink.name

/-- The names on a path from a source to a sink, if there is one. -/
def findPath (g : CallGraph) (source sink : String) (granularity : Granularity) :
    Option (List String) :=
  match g.nodes.contains source, g.find? sink with
  | true, some dest => g.toDigraph.findPath (g.accepts granularity dest) source
  | _, _ => none

/-- A witness that a source reaches a sink. -/
def witness? (g : CallGraph) (granularity : Granularity) (source sink : String) :
    Option Witness := do
  let path ← g.findPath source sink granularity
  let sink ← g.find? sink
  return { sink, path := path.filterMap g.find? }

/-- The sinks that a source reaches, in the given order. -/
def searchSource (g : CallGraph) (source : String) (sinks : List String)
    (granularity : Granularity) : Option SourceReach := do
  let f ← g.find? source
  return { source := f, reached := sinks.filterMap (g.witness? granularity source) }

/-- What each of the sources reaches. -/
def searchAll (g : CallGraph) (sources sinks : List String) (granularity : Granularity) :
    List SourceReach :=
  sources.filterMap (g.searchSource · sinks granularity)

end CallGraph

end CallReach
