import CallReach.Graph.Basic

/-!
# Closures in a graph

A closure may be called from anywhere, so every function is connected to all closures in it, however
deep they are nested. Closures are found by the name of the function around them.
-/

namespace CallReach

/-- For every function around closures, the names of these in order. -/
def closureIndex (nodes : Std.TreeMap String Function) : Std.TreeMap String (List String) :=
  (nodes.values.filter (·.isClosure)).foldl
    (fun index f => index.insert f.enclosingName (index.getD f.enclosingName [] ++ [f.name])) ∅

/-- The pairs of a function and a closure in it, in order. -/
def closurePairs (nodes : Std.TreeMap String Function) : List Call :=
  let index := closureIndex nodes
  (nodes.values.filter (!·.isClosure)).flatMap fun f =>
    (index.getD f.name []).map fun closure => { caller := f.name, callee := closure }

namespace CallGraph

/-- The pairs of a function and a closure in it that are not connected. -/
def unlinked (g : CallGraph) : List Call := (closurePairs g.nodes).filter g.admits

/-- Connects functions to the closures in them, and counts the edges that are new. -/
def linkClosures (g : CallGraph) : CallGraph × Nat :=
  (closurePairs g.nodes).foldl
    (fun (g, added) c => (g.addEdge c .closure, if g.admits c then added + 1 else added)) (g, 0)

/-- The graph of a module, with closures linked if the settings ask for it. -/
def build (c : Settings) (m : Module) : CallGraph :=
  let g := ofModule m
  if c.linkClosures then g.linkClosures.1 else g

end CallGraph

end CallReach
