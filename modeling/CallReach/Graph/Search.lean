import CallReach.Graph.Digraph

/-!
# Depth-first search

A search for a path from a node to an accepted one. It keeps a stack of frames, each with the
neighbours that are still to be tried, and the set of visited nodes. Neighbours are tried in order,
and no node is entered twice.
-/

namespace CallReach

/-- A node on the stack with the neighbours that are still to be tried. -/
structure Frame (g : Digraph) where
  node : String
  pending : List g.Node

/-- A search under way. The top of the stack comes first. -/
structure Search (g : Digraph) where
  stack : List (Frame g)
  visited : Std.TreeSet String

namespace Search

variable {g : Digraph}

/-- What a step of a search comes to. -/
inductive Progress (g : Digraph) where
  | found (path : List String)
  | exhausted
  | running (search : Search g)

/-- The search that has only entered a node. -/
def start (g : Digraph) (source : String) : Search g where
  stack := [{ node := source, pending := g.next source }]
  visited := (∅ : Std.TreeSet String).insert source

/-- The nodes on the stack, from the source on. -/
def trail (s : Search g) : List String := (s.stack.map (·.node)).reverse

/-- One step: tries the next neighbour of the node on top, or leaves that node. -/
def step (accepts : String → Bool) (s : Search g) : Progress g :=
  match s.stack with
  | [] => .exhausted
  | ⟨_, []⟩ :: rest => .running { s with stack := rest }
  | ⟨node, c :: pending⟩ :: rest =>
    -- A visited node has been followed or is on the stack.
    if s.visited.contains c.1 then .running { s with stack := ⟨node, pending⟩ :: rest }
    else if accepts c.1 then .found (s.trail ++ [c.1])
    else
      .running { stack := ⟨c.1, g.next c.1⟩ :: ⟨node, pending⟩ :: rest
                 visited := s.visited.insert c.1 }

/-- How much is left to try on the stack. -/
def load (s : Search g) : Nat := s.stack.foldr (fun f n => f.pending.length + 1 + n) 0

/-- A step that goes on visits a new node or leaves less to try. -/
theorem step_decreases {accepts : String → Bool} {s s' : Search g}
    (h : s.step accepts = .running s') :
    Prod.Lex (· < ·) (· < ·) (g.unvisited s'.visited, s'.load) (g.unvisited s.visited, s.load) := by
  obtain ⟨stack, visited⟩ := s
  unfold step at h
  split at h
  · cases h
  · rename_i node rest hs
    cases h
    dsimp only at hs
    subst hs
    exact Prod.Lex.right _ (by simp [load])
  · rename_i node c pending rest hs
    dsimp only at hs
    subst hs
    split at h
    · cases h
      exact Prod.Lex.right _ (by simp [load])
    · split at h
      · cases h
      · rename_i hv _
        cases h
        exact Prod.Lex.left _ _ (g.unvisited_insert_lt visited c (Bool.eq_false_iff.mpr hv))

/-- Runs a search to its end. -/
def run (accepts : String → Bool) (s : Search g) : Option (List String) :=
  match _h : s.step accepts with
  | .found path => some path
  | .exhausted => none
  | .running s' => run accepts s'
termination_by (g.unvisited s.visited, s.load)
decreasing_by exact step_decreases _h

end Search

/-- A path from a node to an accepted one, if there is one. -/
def Digraph.findPath (g : Digraph) (accepts : String → Bool) (source : String) :
    Option (List String) :=
  if accepts source then some [source] else (Search.start g source).run accepts

end CallReach
