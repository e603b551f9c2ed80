import CallReach.Analysis.Basic
import CallReach.Log

/-!
# What an analysis notes

The log entries of every stage of an analysis, in the order of the stages.
-/

namespace CallReach

/-- The name of a part of the analysis in log entries. -/
def stage (name : String) : String := "impactmap_core::" ++ name

/-- The entry about a function that comes after the functions with the given names, if there is
one. -/
def Function.filterLog (c : Settings) (earlier : Std.TreeSet String) (f : Function) :
    Option Log.Entry :=
  let target := stage "callgraph::filter"
  match f.retention c with
  | .retained =>
    if earlier.contains f.name then
      some (Log.entry .warn target "duplicate function in program model, keeping first"
        [("function", .text f.name)])
    else none
  | .unresolved =>
    some (Log.entry .debug target "dropping function without source position"
      [("function", .text f.name)])
  | .outsideModule => none
  | .generated =>
    some (Log.entry .debug target "dropping generated function"
      [("function", .text f.name), ("file", .text f.file)])

/-- The entries about functions, in order. -/
def functionLogs (c : Settings) (earlier : Std.TreeSet String) : List Function → List Log.Entry
  | [] => []
  | f :: fs =>
    let next := if f.retention c = .retained then earlier.insert f.name else earlier
    (f.filterLog c earlier).toList ++ functionLogs c next fs

/-- The entries about the restriction of a program to a module. -/
def moduleLog (c : Settings) (p : Program) : List Log.Entry :=
  let k := Module.counts c p
  functionLogs c ∅ p.functions ++
    [Log.entry .info (stage "callgraph::filter") "module filter applied"
      [("module", .text c.module), ("retained", .nat k.retainedFunctions),
       ("total", .nat k.totalFunctions), ("edges", .nat k.retainedCalls)]]

/-- The entries about closures that are linked. -/
def closureLog (g : CallGraph) : List Log.Entry :=
  g.unlinked.map (fun e =>
    Log.entry .debug (stage "callgraph::closure") "linked closure"
      [("from", .text e.caller), ("to", .text e.callee)]) ++
    [Log.entry .info (stage "callgraph::closure") "closure edges linked"
      [("added", .nat g.linkClosures.2)]]

/-- The entries about the graph of the module that the settings name. -/
def graphLog (c : Settings) (p : Program) : List Log.Entry :=
  moduleLog c p ++
    if c.linkClosures then closureLog (CallGraph.ofModule (Module.ofProgram c p)) else []

/-- The entries about sources and sinks. -/
def classificationLog (k : Classification) : List Log.Entry :=
  let target := stage "callgraph::classify"
  let missing (what : String) (file : String) : Log.Entry :=
    Log.entry .warn target (what ++ " file declares no function in the module")
      [("file", .text file)]
  k.unmatchedSources.map (missing "source") ++ k.unmatchedSinks.map (missing "sink") ++
    [Log.entry .info target "functions classified"
      [("sources", .nat k.sources.length), ("sinks", .nat k.sinks.length)]]

/-- The entry about the search from a source. -/
def searchLog (s : SourceReach) : Log.Entry :=
  Log.entry .debug (stage "callgraph::engine") "source searched"
    [("source", .text s.source.name), ("reached", .nat s.reached.length)]

/-- The entries about an analysis. -/
def analysisLog (c : Settings) (p : Program) : List Log.Entry :=
  let r := analyze c p
  graphLog c p ++ classificationLog (classify c (p.callGraph c).nodes) ++ r.sources.map searchLog ++
    [Log.entry .info (stage "builder") "analysis complete"
      [("sources", .nat r.sources.length), ("reached_pairs", .nat r.reachedPairs),
       ("reachable_functions", .nat r.reachableFunctions)]]

end CallReach
