import CallReach.Graph.Reach
import CallReach.Proofs.Walks

/-!
# Reachable sets are exact

A traversal finds exactly the nodes that a walk leads to from one of the roots that belong to the
graph. Nodes are marked when they join the queue, so what has been visited falls into two parts:
nodes in the queue, and nodes whose neighbours have all been visited. This is kept by every step,
and at the end the queue is empty, so that no edge leaves the visited nodes.

## Key results

- `mem_visited_foldl_enqueue`, `mem_queue_foldl_enqueue`: which nodes are visited and queued after
  some have joined
- `Invariant.follow`, `Invariant.mem_run_iff`: what a step keeps, and what the whole run finds
- `mem_reachableSet_iff`, `mem_reachableFrom_iff`: the reachable set of some roots
- `reachableSet_exact`: walks, sets of roots and unions of roots
-/

namespace CallReach

variable {α : Type} [DecidableEq α] [Hashable α] {g : Digraph α}

namespace Frontier

/-! ## Joining the queue -/

/-- After a run of `enqueue`, the nodes that have joined are visited as well. -/
theorem mem_visited_foldl_enqueue {as : List g.Node} {s : Frontier g} {b : α} :
    b ∈ (as.foldl enqueue s).visited ↔ b ∈ s.visited ∨ ∃ a ∈ as, a.1 = b := by
  induction as generalizing s with
  | nil => simp
  | cons a as ih =>
    -- A node that has been visited is not added again, but it counts all the same.
    have henqueue : b ∈ (s.enqueue a).visited ↔ b ∈ s.visited ∨ a.1 = b := by
      unfold enqueue
      split
      · rename_i hold
        refine ⟨.inl, ?_⟩
        rintro (hb | rfl)
        · exact hb
        · exact Std.HashSet.mem_iff_contains.mpr hold
      · rw [Std.HashSet.mem_insert, beq_iff_eq, or_comm]
    rw [List.foldl_cons, ih, henqueue, or_assoc]
    simp

/-- After a run of `enqueue`, the queue holds what it held before and the nodes that have been
new. -/
theorem mem_queue_foldl_enqueue {as : List g.Node} {s : Frontier g} {c : g.Node} :
    c ∈ (as.foldl enqueue s).queue ↔ c ∈ s.queue ∨ (c ∈ as ∧ c.1 ∉ s.visited) := by
  induction as generalizing s with
  | nil => simp
  | cons a as ih =>
    rw [List.foldl_cons, ih]
    -- `enqueue` passes over a node that has been visited.
    by_cases hold : a.1 ∈ s.visited
    · have henqueue : s.enqueue a = s := if_pos (Std.HashSet.mem_iff_contains.mp hold)
      rw [henqueue, List.mem_cons]
      refine or_congr_right (and_congr_left fun hc => (or_iff_right ?_).symm)
      rintro rfl
      exact hc hold
    · have henqueue : s.enqueue a = { visited := s.visited.insert a.1, queue := s.queue ++ [a] } :=
        if_neg (fun h => hold (Std.HashSet.mem_iff_contains.mpr h))
      rw [henqueue]
      simp only [List.mem_append, Std.HashSet.mem_insert, beq_iff_eq, List.mem_cons]
      -- The node that has just joined is new once, and is not new for those after it.
      by_cases hca : c = a
      · subst hca
        simp [hold]
      · have hne : a.1 ≠ c.1 := fun h => hca (Subtype.ext h.symm)
        simp [hca, hne]

/-! ## The invariant -/

/-- A traversal from some roots: what has been visited is reached from a root that belongs to the
graph, all of these roots have been visited, and a visited node is in the queue or has had all its
neighbours visited. -/
structure Invariant (roots : List α) (s : Frontier g) : Prop where
  reached : ∀ b ∈ s.visited, ∃ r ∈ roots, g.contains r = true ∧ Relation.ReflTransGen g.Adj r b
  started : ∀ r ∈ roots, g.contains r = true → r ∈ s.visited
  queued : ∀ a ∈ s.queue, a.1 ∈ s.visited
  followed : ∀ b ∈ s.visited, (∃ a ∈ s.queue, a.1 = b) ∨ ∀ c, g.Adj b c → c ∈ s.visited

omit [DecidableEq α] [Hashable α] in
private theorem exists_mem_next_iff {a b : α} : (∃ c ∈ g.next a, c.1 = b) ↔ g.Adj a b := by
  constructor
  · rintro ⟨c, hc, rfl⟩
    exact (List.mem_attachWith _ c).mp hc
  · intro hadj
    exact ⟨⟨b, g.neighbors_support a b hadj⟩, (List.mem_attachWith _ _).mpr hadj, rfl⟩

namespace Invariant

variable {roots : List α} {s : Frontier g}

/-- `Frontier.follow`, which takes the first node of the queue, keeps the `Invariant`. -/
theorem follow (h : Invariant roots s) {a : g.Node} {rest : List g.Node}
    (hqueue : s.queue = a :: rest) :
    Invariant roots (s.follow a rest) := by
  have hvisited : ∀ b, b ∈ (s.follow a rest).visited ↔ b ∈ s.visited ∨ g.Adj a.1 b := by
    intro b
    rw [Frontier.follow, mem_visited_foldl_enqueue, exists_mem_next_iff]
  have hjoined : ∀ c, c ∈ (s.follow a rest).queue ↔
      c ∈ rest ∨ (g.Adj a.1 c.1 ∧ c.1 ∉ s.visited) := by
    intro c
    rw [Frontier.follow, mem_queue_foldl_enqueue, Digraph.next, List.mem_attachWith]
    rfl
  -- What is new after the step is a neighbour of `a`, and `a` is reached from a root.
  have ha : a.1 ∈ s.visited := h.queued a (by rw [hqueue]; exact List.mem_cons_self)
  constructor
  case reached =>
    intro b hb
    rcases (hvisited b).mp hb with hold | hadj
    · exact h.reached b hold
    · obtain ⟨r, hr, hcontains, hreach⟩ := h.reached a.1 ha
      exact ⟨r, hr, hcontains, hreach.tail hadj⟩
  case started =>
    intro r hr hcontains
    exact (hvisited r).mpr (.inl (h.started r hr hcontains))
  case queued =>
    intro c hc
    rcases (hjoined c).mp hc with hrest | ⟨hadj, -⟩
    · exact (hvisited c.1).mpr
        (.inl (h.queued c (by rw [hqueue]; exact List.mem_cons_of_mem a hrest)))
    · exact (hvisited c.1).mpr (.inr hadj)
  case followed =>
    intro b hb
    by_cases hold : b ∈ s.visited
    · rcases h.followed b hold with ⟨c, hc, rfl⟩ | hall
      · rw [hqueue] at hc
        rcases List.mem_cons.mp hc with rfl | hrest
        · -- The node that leaves the queue has had all its neighbours visited.
          exact .inr fun d hd => (hvisited d).mpr (.inr hd)
        · exact .inl ⟨c, (hjoined c).mpr (.inl hrest), rfl⟩
      · exact .inr fun d hd => (hvisited d).mpr (.inl (hall d hd))
    · have hadj := ((hvisited b).mp hb).resolve_left hold
      exact .inl ⟨⟨b, g.neighbors_support a.1 b hadj⟩, (hjoined _).mpr (.inr ⟨hadj, hold⟩), rfl⟩

/-- A run from a frontier with the `Invariant` finds exactly what is reached from roots that belong
to the graph. -/
theorem mem_run_iff (h : Invariant roots s) {b : α} :
    b ∈ s.run ↔ ∃ r ∈ roots, g.contains r = true ∧ Relation.ReflTransGen g.Adj r b := by
  fun_induction Frontier.run s with
  | case1 s hqueue =>
    refine ⟨h.reached b, ?_⟩
    rintro ⟨r, hr, hcontains, hreach⟩
    -- With nothing in the queue, no edge leaves what has been visited.
    refine mem_of_reaches_of_closed (· ∈ s.visited) ?_ hreach (h.started r hr hcontains)
    intro a ha c hadj
    rcases h.followed a ha with ⟨q, hq, -⟩ | hall
    · rw [hqueue] at hq
      cases hq
    · exact hall c hadj
  | case2 s a rest hqueue ih => exact ih (h.follow hqueue)

end Invariant

end Frontier

namespace Digraph

/-! ## Reachable sets -/

omit [DecidableEq α] [Hashable α] in
/-- `known` are the roots that belong to the graph. -/
private theorem mem_known_iff {roots : List α} {a : g.Node} :
    a ∈ g.known roots ↔ a.1 ∈ roots ∧ g.contains a.1 = true := by
  obtain ⟨a, ha⟩ := a
  rw [known, List.mem_filterMap]
  constructor
  · rintro ⟨b, hb, heq⟩
    split at heq
    · rename_i hcontains
      cases heq
      exact ⟨hb, hcontains⟩
    · cases heq
  · rintro ⟨hmem, hcontains⟩
    exact ⟨a, hmem, by rw [dif_pos hcontains]⟩

/-- Before the first step, the `known` roots are visited and queued, so the `Invariant` holds. -/
theorem invariant_start (g : Digraph α) (roots : List α) :
    Frontier.Invariant roots ((g.known roots).foldl Frontier.enqueue {}) := by
  -- At the start the visited nodes are the known roots, and all of them are in the queue.
  have hvisited : ∀ b, b ∈ ((g.known roots).foldl Frontier.enqueue {}).visited ↔
      ∃ a ∈ g.known roots, a.1 = b := by
    intro b
    rw [Frontier.mem_visited_foldl_enqueue]
    simp
  have hqueue : ∀ c, c ∈ ((g.known roots).foldl Frontier.enqueue {}).queue ↔ c ∈ g.known roots := by
    intro c
    rw [Frontier.mem_queue_foldl_enqueue]
    simp
  constructor
  case reached =>
    intro b hb
    obtain ⟨a, ha, rfl⟩ := (hvisited b).mp hb
    obtain ⟨hmem, hcontains⟩ := mem_known_iff.mp ha
    exact ⟨a.1, hmem, hcontains, .refl⟩
  case started =>
    intro r hr hcontains
    exact (hvisited r).mpr ⟨⟨r, g.contains_support r hcontains⟩, mem_known_iff.mpr ⟨hr, hcontains⟩,
      rfl⟩
  case queued =>
    intro a ha
    exact (hvisited a.1).mpr ⟨a, (hqueue a).mp ha, rfl⟩
  case followed =>
    intro b hb
    obtain ⟨a, ha, rfl⟩ := (hvisited b).mp hb
    exact .inl ⟨a, (hqueue a).mpr ha, rfl⟩

/-- `reachableSet` holds exactly what is reached from roots that belong to the graph. -/
theorem mem_reachableSet_iff {roots : List α} {b : α} :
    b ∈ g.reachableSet roots ↔ ∃ a ∈ roots, g.contains a = true ∧ Relation.ReflTransGen g.Adj a b :=
  (g.invariant_start roots).mem_run_iff

/-- `reachableFrom` has the names of `reachableSet`, in order. -/
theorem mem_reachableFrom_iff {g : Digraph} {roots : List String} {b : String} :
    b ∈ g.reachableFrom roots ↔ ∃ a ∈ roots, g.contains a = true ∧
      Relation.ReflTransGen g.Adj a b := by
  rw [reachableFrom, Std.TreeSet.mem_ofList, List.contains_iff_mem, Std.HashSet.mem_toList,
    mem_reachableSet_iff]

omit [DecidableEq α] [Hashable α] in
/-- `ReflTransGen` in terms of walks; a walk may be the node alone. -/
private theorem reaches_iff_exists_walk {r b : α} :
    Relation.ReflTransGen g.Adj r b ↔ ∃ walk, (r :: walk).IsChain g.Adj ∧
      (r :: walk).getLast? = some b := by
  constructor
  · intro hreach
    obtain ⟨walk, hchain, hlast⟩ := List.exists_isChain_cons_of_relationReflTransGen hreach
    exact ⟨walk, hchain, by rw [List.getLast?_eq_some_getLast (List.cons_ne_nil r walk), hlast]⟩
  · rintro ⟨walk, hchain, hlast⟩
    rw [List.getLast?_eq_some_getLast (List.cons_ne_nil r walk), Option.some.injEq] at hlast
    exact List.relationReflTransGen_of_exists_isChain_cons walk hchain hlast

/-- **`reachableSet` is exact.** Of a finite graph with nodes of any type, whose neighbours need not
belong to it, and of roots that may be repeated or unknown, it holds exactly the nodes that a walk
leads to from a root that belongs to the graph; a walk may have no edges. So only the set of roots
counts, and what several lists of roots reach is what each of them reaches, taken together. -/
theorem reachableSet_exact (g : Digraph α) (roots : List α) :
    (∀ b, b ∈ g.reachableSet roots ↔ ∃ r ∈ roots, g.contains r = true ∧
      ∃ walk, (r :: walk).IsChain g.Adj ∧ (r :: walk).getLast? = some b) ∧
    (∀ roots', (∀ r, r ∈ roots' ↔ r ∈ roots) →
      (g.reachableSet roots').Equiv (g.reachableSet roots)) ∧
    ∀ more, (g.reachableSet (roots ++ more)).Equiv
      (g.reachableSet roots ∪ g.reachableSet more) := by
  refine ⟨?_, ?_, ?_⟩
  · intro b
    simp only [mem_reachableSet_iff, reaches_iff_exists_walk]
  · intro roots' hsame
    apply Std.HashSet.Equiv.of_forall_mem_iff
    intro b
    simp only [mem_reachableSet_iff, hsame]
  · intro more
    apply Std.HashSet.Equiv.of_forall_mem_iff
    intro b
    -- From two lists of roots, each node is reached from a root of the one or of the other.
    have hunion : b ∈ g.reachableSet roots ∪ g.reachableSet more ↔
        b ∈ g.reachableSet roots ∨ b ∈ g.reachableSet more := Std.HashSet.mem_union_iff
    rw [hunion]
    simp only [mem_reachableSet_iff, List.mem_append, or_and_right, exists_or]

end Digraph

end CallReach
