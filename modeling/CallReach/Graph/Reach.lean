import CallReach.Graph.Digraph
import Std.Data.HashSet
import Std.Data.HashSet.Lemmas

/-!
# Reachability

The set of nodes that can be reached from some roots, computed breadth first. A node is marked when
it joins the queue, not when its turn comes, so that it never joins twice. Nodes may be of any type
that can be compared and hashed.
-/

namespace CallReach

variable {α : Type} [DecidableEq α] [Hashable α]

/-- A traversal under way: the nodes that have been visited, and those of them whose neighbours have
not been looked at, in the order in which they joined. -/
structure Frontier (g : Digraph α) where
  visited : Std.HashSet α := ∅
  queue : List g.Node := []

namespace Frontier

variable {g : Digraph α}

/-- Lets a node join the queue, unless it has been visited. -/
def enqueue (s : Frontier g) (a : g.Node) : Frontier g :=
  if s.visited.contains a.1 then s
  else { visited := s.visited.insert a.1, queue := s.queue ++ [a] }

/-- How much is left to do: the nodes that have not been visited, and those in the queue. -/
def load (s : Frontier g) : Nat :=
  (g.support.countP fun a => !s.visited.contains a) + s.queue.length

/-- A node that joins the queue has not been visited before, so there is no more to do. -/
theorem load_enqueue_le (s : Frontier g) (a : g.Node) : (s.enqueue a).load ≤ s.load := by
  unfold enqueue
  split
  · exact Nat.le_refl _
  · rename_i hnew
    have hlt : (g.support.countP fun b => !(s.visited.insert a.1).contains b) <
        g.support.countP fun b => !s.visited.contains b := by
      apply List.countP_lt_countP ?_ a.2 (by simpa using hnew) (by simp)
      intro b hb
      simp only [Std.HashSet.contains_insert, Bool.not_eq_true', Bool.or_eq_false_iff] at hb ⊢
      exact hb.2
    simp only [load, List.length_append, List.length_singleton]
    omega

/-- Whatever joins the queue, there is no more to do. -/
theorem load_foldl_enqueue_le (as : List g.Node) (s : Frontier g) :
    (as.foldl enqueue s).load ≤ s.load := by
  induction as generalizing s with
  | nil => exact Nat.le_refl _
  | cons a as ih => exact Nat.le_trans (ih (s.enqueue a)) (s.load_enqueue_le a)

/-- Follows the first node of the queue: its neighbours join. -/
def follow (s : Frontier g) (a : g.Node) (rest : List g.Node) : Frontier g :=
  (g.next a.1).foldl enqueue { s with queue := rest }

/-- Follows nodes until the queue is empty. -/
def run (s : Frontier g) : Std.HashSet α :=
  match _h : s.queue with
  | [] => s.visited
  | a :: rest => run (s.follow a rest)
termination_by s.load
decreasing_by
  refine Nat.lt_of_le_of_lt (load_foldl_enqueue_le _ _) ?_
  simp only [load, _h, List.length_cons]
  omega

end Frontier

namespace Digraph

/-- The roots that belong to the graph. -/
def known (g : Digraph α) (roots : List α) : List g.Node :=
  roots.filterMap fun a => if h : g.contains a then some ⟨a, g.contains_support a h⟩ else none

/-- The nodes that can be reached from any of the roots, roots included. Roots that do not belong to
the graph count for nothing. -/
def reachableSet (g : Digraph α) (roots : List α) : Std.HashSet α :=
  ((g.known roots).foldl Frontier.enqueue {}).run

/-- The names that can be reached from any of the roots, in order. -/
def reachableFrom (g : Digraph) (roots : List String) : Std.TreeSet String :=
  Std.TreeSet.ofList (g.reachableSet roots).toList

end Digraph

end CallReach
