import CallReach.Analysis.Basic
import CallReach.Graph.Render
import CallReach.Json.Program

/-!
# Printed reports

A report as text, in which functions have their short names, and as a JSON document with everything
in it.
-/

namespace CallReach

/-- A function with its place. -/
def Function.described (f : Function) : String :=
  f.shortName ++ " (" ++ f.location ++ ")"

namespace Report

/-- The lines about a witness. -/
def witnessLines (w : Witness) : List String :=
  ("  Sink reached: " ++ w.sink.described) :: "  Path:" ::
    w.path.mapIdx fun i f => "    " ++ toString (i + 1) ++ ". " ++ f.described

/-- The lines about a source. -/
def sourceLines (s : SourceReach) : List String :=
  "" :: ("Source: " ++ s.source.described) ::
    if s.reached.isEmpty then ["  No sinks reached from this source."]
    else s.reached.flatMap witnessLines

/-- The lines about files that declare nothing, if there are any. -/
def unmatchedLines (title : String) (files : List String) : List String :=
  if files.isEmpty then []
  else "" :: (title ++ " (" ++ toString files.length ++ "):") :: files.map ("- " ++ ·)

/-- The lines of a report. -/
def plainLines (r : Report) : List String :=
  "Analyzing paths from sources to sinks:" :: r.sources.flatMap sourceLines ++
    unmatchedLines "Source files without module functions" r.unmatchedSources ++
    unmatchedLines "Sink files without module functions" r.unmatchedSinks

/-- A report as text. -/
def plain (r : Report) : String := String.join (r.plainLines.map (· ++ "\n"))

/-- The document of what was found in a program, by number. -/
def filterJson (k : FilterCounts) : Json :=
  .record [("total_functions", .nat k.totalFunctions),
    ("retained_functions", .nat k.retainedFunctions),
    ("unresolved", .nat k.unresolved), ("outside_module", .nat k.outsideModule),
    ("generated", .nat k.generated), ("duplicates", .nat k.duplicates),
    ("total_edges", .nat k.totalCalls), ("retained_edges", .nat k.retainedCalls)]

/-- The document of sources and sinks, by number. -/
def classificationJson (k : ClassificationCounts) : Json :=
  .record [("sources", .nat k.sources), ("sinks", .nat k.sinks),
    ("unmatched_sources", .nat k.unmatchedSources), ("unmatched_sinks", .nat k.unmatchedSinks)]

/-- The document of a witness. -/
def witnessJson (w : Witness) : Json :=
  .record [("sink", .ofFunction w.sink), ("path", .array (w.path.map .ofFunction))]

/-- The document of what a source reaches. -/
def sourceJson (s : SourceReach) : Json :=
  .record [("source", .ofFunction s.source), ("reached", .array (s.reached.map witnessJson))]

/-- The document of a report. -/
def toJson (r : Report) : Json :=
  .record [("module", .text r.module), ("granularity", .text r.granularity.text),
    ("filter", filterJson r.filter), ("graph", CallGraph.countsJson r.graph),
    ("classification", classificationJson r.classification),
    ("reachable_functions", .nat r.reachableFunctions),
    ("sources", .array (r.sources.map sourceJson)),
    ("unmatched_sources", .texts r.unmatchedSources), ("unmatched_sinks", .texts r.unmatchedSinks)]

end Report

end CallReach
