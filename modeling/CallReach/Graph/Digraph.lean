import CallReach.ForStd.List
import Std.Data.TreeSet
import Std.Data.TreeSet.Lemmas

/-!
# Finite directed graphs

The neighbours of a node need not belong to the graph, but all of them are found in one finite list,
the support. What is left of the support bounds every search.
-/

namespace CallReach

/-- A finite directed graph. Nodes are names unless another type is given. -/
structure Digraph (α : Type := String) where
  contains : α → Bool
  neighbors : α → List α
  support : List α
  contains_support : ∀ a, contains a = true → a ∈ support
  neighbors_support : ∀ a, ∀ b ∈ neighbors a, b ∈ support

namespace Digraph

variable {α : Type}

/-- A node of the support. -/
abbrev Node (g : Digraph α) : Type := { a : α // a ∈ g.support }

/-- The neighbours of a node, as nodes. -/
def next (g : Digraph α) (a : α) : List g.Node :=
  (g.neighbors a).attachWith _ (g.neighbors_support a)

/-- How many nodes of the support have not been visited. -/
def unvisited (g : Digraph) (visited : Std.TreeSet String) : Nat :=
  g.support.countP fun a => !visited.contains a

/-- To visit a new node of the support leaves fewer nodes. -/
theorem unvisited_insert_lt (g : Digraph) (visited : Std.TreeSet String) (a : g.Node)
    (h : visited.contains a.1 = false) :
    g.unvisited (visited.insert a.1) < g.unvisited visited := by
  apply List.countP_lt_countP ?_ a.2 (by rw [h]; rfl)
    (by rw [Std.TreeSet.contains_insert_self]; rfl)
  intro b hb
  simp only [Std.TreeSet.contains_insert, Bool.not_eq_true', Bool.or_eq_false_iff] at hb ⊢
  exact hb.2

/-- The graph of an adjacency list. A node belongs to the graph if its neighbours are listed. -/
def ofAdjacency (adjacency : List (String × List String)) : Digraph where
  contains a := (adjacency.lookup a).isSome
  neighbors a := (adjacency.lookup a).getD []
  support := adjacency.flatMap fun (a, bs) => a :: bs
  contains_support a h := by
    obtain ⟨bs, hbs⟩ := Option.isSome_iff_exists.mp h
    have := List.lookup_eq_some_iff.mp hbs
    obtain ⟨l₁, l₂, rfl, _⟩ := this
    simp
  neighbors_support a b hb := by
    cases hbs : adjacency.lookup a with
    | none => simp [hbs] at hb
    | some bs =>
      obtain ⟨l₁, l₂, rfl, _⟩ := List.lookup_eq_some_iff.mp hbs
      simp only [hbs, Option.getD_some] at hb
      simp [hb]

end Digraph

end CallReach
