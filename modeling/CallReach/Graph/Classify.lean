import CallReach.Graph.Module

/-!
# Sources and sinks

A function is a source or a sink if the file that declares it is listed as one.
-/

namespace CallReach

/-- The sources and sinks of a module by name, and the listed files that declare no function of
it. -/
structure Classification where
  sources : List String := []
  sinks : List String := []
  unmatchedSources : List String := []
  unmatchedSinks : List String := []
  deriving DecidableEq, Repr

/-- Sources, sinks and unmatched files, by number. -/
structure ClassificationCounts where
  sources : Nat := 0
  sinks : Nat := 0
  unmatchedSources : Nat := 0
  unmatchedSinks : Nat := 0
  deriving DecidableEq, Repr

/-- The names of the functions that are declared in one of the files, in order. -/
def declaredIn (nodes : Std.TreeMap String Function) (files : List String) : List String :=
  (nodes.toList.filter fun (_, f) => files.contains f.file).map (·.1)

/-- The files that declare none of the functions, in order. -/
def unmatchedIn (nodes : Std.TreeMap String Function) (files : List String) : List String :=
  files.filter fun file => !nodes.values.any (·.file = file)

/-- Finds the sources and sinks among functions. -/
def classify (c : Settings) (nodes : Std.TreeMap String Function) : Classification where
  sources := declaredIn nodes c.sources
  sinks := declaredIn nodes c.sinks
  unmatchedSources := unmatchedIn nodes c.sources
  unmatchedSinks := unmatchedIn nodes c.sinks

/-- Sources, sinks and unmatched files, by number. -/
def Classification.counts (k : Classification) : ClassificationCounts where
  sources := k.sources.length
  sinks := k.sinks.length
  unmatchedSources := k.unmatchedSources.length
  unmatchedSinks := k.unmatchedSinks.length

end CallReach
