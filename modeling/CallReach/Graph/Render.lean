import CallReach.Graph.Basic
import CallReach.Json.Basic

/-!
# Graphs as documents

A call graph as text for drawing, in which edges to closures are dashed, and as a JSON document.
-/

namespace CallReach.CallGraph

/-- A character inside quotes. -/
def escapeChar (c : Char) : List Char :=
  if c = '\\' then ['\\', '\\'] else if c = '"' then ['\\', '"'] else [c]

/-- A name inside quotes. -/
def quoted (name : String) : String :=
  "\"" ++ String.ofList (name.toList.flatMap escapeChar) ++ "\""

/-- What comes before the functions. -/
def drawingHead : String :=
  "digraph ReachabilityGraph \x7b\n    rankdir=LR;\n    node [shape=box, fontname=\"monospace\"];\n\n"

/-- The line of a function. -/
def nodeLine (f : Function) : String :=
  "    " ++ quoted f.name ++ " [label=" ++ quoted f.shortName ++ "];\n"

/-- The line of an edge. -/
def edgeLine (e : Edge) : String :=
  let style := match e.kind with
    | .call => ""
    | .closure => " [style=dashed]"
  "    " ++ quoted e.caller ++ " -> " ++ quoted e.callee ++ style ++ ";\n"

/-- The text for drawing a graph. -/
def toDrawing (g : CallGraph) : String :=
  drawingHead ++ String.join (g.nodes.values.map nodeLine) ++ "\n" ++
    String.join (g.edges.map edgeLine) ++ "\x7d\n"

/-- The document of the numbers of a graph. -/
def countsJson (k : GraphCounts) : Json :=
  .record [("functions", .nat k.functions), ("call_edges", .nat k.callEdges),
    ("closure_edges", .nat k.closureEdges)]

/-- The document of a graph. -/
def toJson (g : CallGraph) : Json :=
  .record [
    ("nodes", .array (g.nodes.values.map fun f =>
      .record [("id", .text f.name), ("name", .text f.shortName), ("file", .text f.file),
        ("line", .nat f.line)])),
    ("edges", .array (g.edges.map fun e =>
      .record [("from", .text e.caller), ("to", .text e.callee), ("kind", .text e.kind.text)])),
    ("stats", countsJson g.counts)]

end CallReach.CallGraph
