import CallReach.Graph.EdgeMap
import CallReach.Graph.Module
import CallReach.Graph.Reach
import CallReach.Graph.Search

/-!
# Call graphs

A graph over the functions of a module. Its edges are calls, and edges from functions to the
closures in them. Calls are taken from the module as they are; edges are added later only between
its functions, and none of them is removed or replaced.
-/

namespace CallReach

/-- Functions and edges of a graph, by number. -/
structure GraphCounts where
  functions : Nat := 0
  callEdges : Nat := 0
  closureEdges : Nat := 0
  deriving DecidableEq, Repr

/-- A call graph: functions by name, the edges over a set of names that holds theirs, and how many
of the edges lead to closures. -/
structure CallGraph where
  nodes : Std.TreeMap String Function
  links : EdgeMap
  closureEdges : Nat
  nodes_names : ∀ a ∈ nodes, a ∈ links.names

namespace CallGraph

/-- The function with a name. -/
def find? (g : CallGraph) (name : String) : Option Function := g.nodes[name]?

/-- The names that edges lead to from a function, in order. -/
def neighbors (g : CallGraph) (a : String) : List String :=
  if g.nodes.contains a then g.links.neighbors a else []

/-- The kind of the edge between two functions, if there is one. -/
def edgeKind? (g : CallGraph) (a b : String) : Option EdgeKind :=
  if g.nodes.contains a && g.nodes.contains b then g.links.kind? a b else none

/-- The edges in order. -/
def edges (g : CallGraph) : List Edge := g.links.edges

/-- The number of edges. -/
def edgeCount (g : CallGraph) : Nat := g.links.edgeCount

/-- Functions and edges, by number. -/
def counts (g : CallGraph) : GraphCounts where
  functions := g.links.names.size
  callEdges := g.edgeCount - g.closureEdges
  closureEdges := g.closureEdges

/-- Whether a new edge may be added: both of its ends are known, and they are not connected. -/
def admits (g : CallGraph) (c : Call) : Bool :=
  g.nodes.contains c.caller && g.nodes.contains c.callee && (g.links.kind? c.caller c.callee).isNone

/-- Adds an edge if its ends are known and not connected. -/
def addEdge (g : CallGraph) (c : Call) (kind : EdgeKind) : CallGraph :=
  if g.admits c then
    { g with
      links := g.links.connect c kind
      closureEdges := if kind = .closure then g.closureEdges + 1 else g.closureEdges
      nodes_names := fun a h =>
        EdgeMap.mem_names_connect_iff.mpr (.inr (.inr (g.nodes_names a h))) }
  else g

/-- The graph of the calls of a module. -/
def ofModule (m : Module) : CallGraph where
  nodes := m.nodes
  links := m.calls.toList.foldl (fun links c => links.connect c .call)
    (m.nodes.keys.foldl EdgeMap.addName .empty)
  closureEdges := 0
  nodes_names _ h := EdgeMap.mem_names_foldl_connect_iff.mpr
    (.inr (EdgeMap.mem_names_foldl_addName_iff.mpr (.inl (Std.TreeMap.mem_keys.mpr h))))

/-- The graph without its records. -/
def toDigraph (g : CallGraph) : Digraph where
  contains a := g.nodes.contains a
  neighbors := g.neighbors
  support := g.links.names.toList
  contains_support a h :=
    Std.TreeSet.mem_toList.mpr (g.nodes_names a (Std.TreeMap.mem_iff_contains.mpr h))
  neighbors_support a b h := by
    rw [neighbors] at h
    split at h
    · exact Std.TreeSet.mem_toList.mpr (g.links.rows_names a b (Std.TreeMap.mem_keys.mp h)).2
    · cases h

/-- The functions that can be reached from any of the given ones. -/
def reachableFrom (g : CallGraph) (roots : List String) : Std.TreeSet String :=
  g.toDigraph.reachableFrom roots

end CallGraph

end CallReach
