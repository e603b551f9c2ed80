import CallReach.Proofs.WitnessCorrect
import Mathlib.Data.List.Flatten
import Mathlib.Data.List.Perm.Subperm

/-!
# The loop of depth-first search

A search is followed step by step, with a history beside it: which nodes have been put on the stack
and which have been taken off. The history is read off from the stack alone, by comparing it before
and after a step. A node is finished when it has been taken off. The nodes that were put on the
stack are the visited ones, each was put there once, and they are divided between the stack and the
finished ones. Each of them costs one step for every neighbour and one to leave it, so no loop is
longer than the graph is large.

## Key results

- `History.Accounts.step`: a step keeps the account of the history
- `Loop.iteration`: what holds at every iteration
- `Loop.iterations_le`: how long a loop can get
- `CallGraph.findPath_loop`: the loop behind a path between functions, from its start to its answer
-/

namespace CallReach

/-- The number of steps that it takes to try all neighbours of some nodes and to leave these. -/
def Digraph.work (g : Digraph) (nodes : List String) : Nat :=
    nodes.length + (nodes.flatMap g.neighbors).length

/-- One node more adds to `work` a step for each of its neighbours and one to leave it. -/
private theorem Digraph.work_concat (g : Digraph) (nodes : List String) (a : String) :
    g.work (nodes ++ [a]) = g.work nodes + ((g.neighbors a).length + 1) := by
  simp only [work, List.length_append, List.length_singleton, List.flatMap_append,
    List.flatMap_singleton]
  omega

/-- Distinct nodes take no more `work` than all nodes together. -/
private theorem Digraph.work_le {g : Digraph} {nodes all : List String} (hnodup : nodes.Nodup)
    (hsub : nodes ⊆ all) :
    g.work nodes ≤ g.work all := by
  obtain ⟨same, hperm, hsublist⟩ := hnodup.subperm hsub
  have hedges : (nodes.flatMap g.neighbors).length = (same.flatMap g.neighbors).length :=
    (hperm.flatMap_right g.neighbors).length_eq.symm
  rw [work, work, ← hperm.length_eq, hedges]
  exact Nat.add_le_add hsublist.length_le (hsublist.flatMap g.neighbors).length_le

namespace Search

variable {g : Digraph} {accepts : String → Bool} {source : String}

/-! ## Histories -/

/-- What a loop has done so far: the nodes that were put on the stack, those that were taken off,
both in order, and the number of steps. -/
structure History where
  pushed : List String
  popped : List String := []
  iterations : Nat := 0

/-- The node on top of the stack of `t`, if this stack is higher than that of `s`. -/
def pushed? (s t : Search g) : Option String :=
  if s.stack.length < t.stack.length then (names t.stack).head? else none

/-- The history after one more step. What is taken off is what would be put on by going back. -/
def History.after (h : History) (s t : Search g) : History where
  pushed := h.pushed ++ (pushed? s t).toList
  popped := h.popped ++ (pushed? t s).toList
  iterations := h.iterations + 1

/-- A loop with a given history has come to a search. The source is put on the stack before the
first step. -/
inductive Loop (accepts : String → Bool) (source : String) : History → Search g → Prop
  | start : Loop accepts source { pushed := [source] } (start g source)
  | step {h : History} {s t : Search g} (hloop : Loop accepts source h s)
      (hstep : s.step accepts = .running t) : Loop accepts source (h.after s t) t

/-- The next step of `s` ends the search with this answer. -/
def Stops (accepts : String → Bool) (s : Search g) (answer : Option (List String)) : Prop :=
  s.step accepts = .exhausted ∧ answer = none ∨ ∃ path, s.step accepts = .found path ∧
    answer = some path

private theorem exists_loop_of_steps {t : Search g}
    (hsteps : Steps accepts (Search.start g source) t) :
    ∃ h, Loop accepts source h t := by
  induction hsteps with
  | refl => exact ⟨_, .start⟩
  | tail _ hstep ih =>
    obtain ⟨h, hloop⟩ := ih
    exact ⟨_, hloop.step hstep⟩

private theorem Loop.invariant {h : History} {s : Search g} (hloop : Loop accepts source h s)
    (hrejected : accepts source = false) : s.Invariant accepts source := by
  induction hloop with
  | start => exact invariant_start hrejected
  | step _ hstep ih => exact ih.step hstep

/-! ## The account of a history -/

private theorem pushed?_of_le {s t : Search g} (h : t.stack.length ≤ s.stack.length) :
    pushed? s t = none :=
  if_neg (Nat.not_lt.mpr h)

private theorem pushed?_of_lt {s t : Search g} (h : s.stack.length < t.stack.length) :
    pushed? s t = (names t.stack).head? := if_pos h

/-- What a history tells about the search that it has led to. -/
structure History.Accounts (h : History) (source : String) (s : Search g) : Prop where
  once : h.pushed.Nodup
  visited : ∀ a, a ∈ s.visited ↔ a ∈ h.pushed
  divided : h.pushed.Perm (names s.stack ++ h.popped)
  inside : ∀ a ∈ h.pushed, a = source ∨ a ∈ g.support
  work : h.iterations + s.load = g.work h.pushed

private theorem accounts_start :
    ({ pushed := [source] } : History).Accounts source (Search.start g source) where
  once := List.nodup_singleton source
  visited a := by
    rw [Search.start, mem_insert_iff, List.mem_singleton]
    simp
  divided := by simp [Search.start]
  inside a ha := .inl (List.mem_singleton.mp ha)
  work := by
    simp [Search.start, load, Digraph.work, Digraph.next]
    omega

/-- A step that puts no node on the stack keeps `Accounts` if it finishes what it takes off and
leaves one step less to take. -/
private theorem History.Accounts.of_pushed_eq {h : History} {s t : Search g}
    (ha : h.Accounts source s) (hlower : t.stack.length ≤ s.stack.length)
    (hvisited : t.visited = s.visited)
    (hdivided : (names s.stack).Perm (names t.stack ++ (pushed? t s).toList))
    (hload : s.load = t.load + 1) :
    (h.after s t).Accounts source t := by
  -- The stack has not grown, so nothing is pushed; what leaves the stack goes to the other part.
  have hpushed : (h.after s t).pushed = h.pushed := by simp [History.after, pushed?_of_le hlower]
  refine ⟨?_, ?_, ?_, ?_, ?_⟩
  · rw [hpushed]
    exact ha.once
  · rw [hpushed, hvisited]
    exact ha.visited
  · rw [hpushed]
    calc h.pushed
      _ |>.Perm (names s.stack ++ h.popped) := ha.divided
      _ |>.Perm (names t.stack ++ (pushed? t s).toList ++ h.popped) := hdivided.append_right _
      _ |>.Perm (names t.stack ++ (h.popped ++ (pushed? t s).toList)) := by
        rw [List.append_assoc]
        exact List.perm_append_comm.append_left _
  · rw [hpushed]
    exact ha.inside
  · have hwork := ha.work
    show h.iterations + 1 + t.load = _
    rw [hpushed]
    omega

/-- To leave the node on top finishes it, so it moves from the stack to `popped`. -/
theorem History.Accounts.leave {h : History} {s : Search g} {node : String} {rest : List (Frame g)}
    (ha : h.Accounts source s) (hstack : s.stack = ⟨node, []⟩ :: rest) :
    (h.after s { s with stack := rest }).Accounts source { s with stack := rest } := by
  have hlower : rest.length < s.stack.length := by simp [hstack]
  have hpopped : pushed? { s with stack := rest } s = some node := by
    rw [pushed?_of_lt hlower, hstack]
    rfl
  refine ha.of_pushed_eq hlower.le rfl ?_ ?_
  · rw [hpopped, hstack]
    exact (List.perm_append_singleton node (names rest)).symm
  · simp only [load, hstack, List.foldr_cons, List.length_nil]
    omega

/-- To skip a neighbour changes neither the nodes on the stack nor `popped`. -/
theorem History.Accounts.skip {h : History} {s : Search g} {node : String} {c : g.Node}
    {pending : List g.Node} {rest : List (Frame g)} (ha : h.Accounts source s)
    (hstack : s.stack = ⟨node, c :: pending⟩ :: rest) :
    (h.after s { s with stack := ⟨node, pending⟩ :: rest }).Accounts source
      { s with stack := ⟨node, pending⟩ :: rest } := by
  have hlevel : (⟨node, pending⟩ :: rest : List (Frame g)).length = s.stack.length := by
    simp [hstack]
  have hpopped : pushed? { s with stack := ⟨node, pending⟩ :: rest } s = none :=
    pushed?_of_le hlevel.ge
  refine ha.of_pushed_eq hlevel.le rfl ?_ ?_
  · rw [hpopped, hstack, Option.toList_none, List.append_nil]
    exact .refl _
  · simp only [load, hstack, List.foldr_cons, List.length_cons]
    omega

/-- To enter a new neighbour puts it on the stack and adds it to `pushed`. -/
theorem History.Accounts.enter {h : History} {s : Search g} {node : String} {c : g.Node}
    {pending : List g.Node} {rest : List (Frame g)} (ha : h.Accounts source s)
    (hstack : s.stack = ⟨node, c :: pending⟩ :: rest) (hc : c.1 ∉ s.visited) :
    let t : Search g :=
      { stack := ⟨c.1, g.next c.1⟩ :: ⟨node, pending⟩ :: rest, visited := s.visited.insert c.1 }
    (h.after s t).Accounts source t := by
  intro t
  have hhigher : s.stack.length < t.stack.length := by simp [t, hstack]
  have hpushed : (h.after s t).pushed = h.pushed ++ [c.1] := by
    simp [History.after, pushed?_of_lt hhigher, t]
  have hpopped : (h.after s t).popped = h.popped := by
    simp [History.after, pushed?_of_le hhigher.le]
  have hnew : c.1 ∉ h.pushed := fun hmem => hc ((ha.visited c.1).mpr hmem)
  -- One neighbour less is to be tried below, and all neighbours of the new node and its leaving are
  -- to come.
  have hload : t.load = s.load + (g.neighbors c.1).length := by
    simp [load, hstack, t, Digraph.next]
    omega
  refine ⟨?_, ?_, ?_, ?_, ?_⟩
  · rw [hpushed, ← List.concat_eq_append]
    exact ha.once.concat hnew
  · intro a
    rw [hpushed, mem_insert_iff, ha.visited, List.mem_append, List.mem_singleton]
    exact or_comm
  · have hdivided := ha.divided
    rw [hstack] at hdivided
    rw [hpushed, hpopped]
    exact (List.perm_append_singleton c.1 h.pushed).trans (hdivided.cons c.1)
  · intro a hmem
    rw [hpushed] at hmem
    rcases List.mem_append.mp hmem with hmem | hmem
    · exact ha.inside a hmem
    · rw [List.mem_singleton.mp hmem]
      exact .inr c.2
  · have hwork := ha.work
    show h.iterations + 1 + t.load = _
    rw [hpushed, Digraph.work_concat, hload]
    omega

/-- Every step keeps `Accounts`. -/
theorem History.Accounts.step {h : History} {s t : Search g} (ha : h.Accounts source s)
    (hstep : s.step accepts = .running t) : (h.after s t).Accounts source t := by
  rcases step_cases hstep with ⟨node, rest, hstack, rfl⟩ |
    ⟨node, c, pending, rest, hstack, _, rfl⟩ | ⟨node, c, pending, rest, hstack, hc, _, rfl⟩
  · exact ha.leave hstack
  · exact ha.skip hstack
  · exact ha.enter hstack hc

private theorem Loop.accounts {h : History} {s : Search g} (hloop : Loop accepts source h s) :
    h.Accounts source s := by
  induction hloop with
  | start => exact accounts_start
  | step _ hstep ih => exact ih.step hstep

/-! ## Iterations -/

/-- What holds at an iteration: the stack is a walk from the source without repetition; what has
been visited was rejected, and is on the stack or finished, never both; the neighbours of a finished
node have been visited, and so have those of a node on the stack that were tried; no node was put on
the stack twice. -/
structure Iteration (accepts : String → Bool) (source : String) (h : History) (s : Search g) :
    Prop where
  distinct : s.trail.Nodup
  walk : s.trail.IsChain g.Adj
  from_source : ∀ a, s.trail.head? = some a → a = source
  rejected : ∀ a ∈ s.visited, accepts a = false
  stacked_or_finished : ∀ a ∈ s.visited, a ∈ s.trail ∨ a ∈ h.popped
  not_both : ∀ a ∈ s.trail, a ∉ h.popped
  finished : ∀ a ∈ h.popped, ∀ b ∈ g.neighbors a, b ∈ s.visited
  tried : ∀ f ∈ s.stack, ∃ tried, g.neighbors f.node = tried ++ f.pending.map (·.1) ∧
    ∀ b ∈ tried, b ∈ s.visited
  once : h.pushed.Nodup

/-- By `Descends`, the stack is a walk, read from its bottom: every frame was entered along an edge
from the one below. -/
theorem Descends.isChain {stack : List (Frame g)} (h : Descends accepts stack) :
    (names stack).IsChain fun child a => g.Adj a child := by
  induction stack with
  | nil => exact .nil
  | cons child below ih =>
    cases below with
    | nil => exact .singleton _
    | cons f below =>
      obtain ⟨⟨tried, hsplit, _⟩, hbelow⟩ := h
      refine List.isChain_cons_cons.mpr ⟨?_, ih hbelow⟩
      rw [Digraph.Adj, hsplit]
      exact List.mem_append_right tried List.mem_cons_self

/-- Every search that a `Loop` comes to is an `Iteration`, if the source is not accepted itself. -/
theorem Loop.iteration {h : History} {s : Search g} (hloop : Loop accepts source h s)
    (hrejected : accepts source = false) : Iteration accepts source h s := by
  have hinv := hloop.invariant hrejected
  have hacc := hloop.accounts
  have htrail : s.trail = (names s.stack).reverse := rfl
  have hmem : ∀ a, a ∈ s.trail ↔ a ∈ names s.stack := fun a => List.mem_reverse
  have hvisited : ∀ a, a ∈ s.visited ↔ a ∈ names s.stack ∨ a ∈ h.popped := by
    intro a
    rw [hacc.visited, hacc.divided.mem_iff, List.mem_append]
  -- What was put on the stack is divided, and it is distinct: a node on the stack is not finished.
  have hapart : ∀ a ∈ names s.stack, a ∉ h.popped := by
    have hnodup := hacc.divided.nodup_iff.mp hacc.once
    exact List.disjoint_of_nodup_append hnodup
  refine ⟨?_, ?_, ?_, hinv.rejected, ?_, ?_, ?_, hinv.tried, hacc.once⟩
  · exact List.nodup_reverse.mpr hinv.distinct
  · rw [htrail, List.isChain_reverse]
    exact hinv.descends.isChain
  · intro a ha
    rw [htrail, List.head?_reverse] at ha
    exact hinv.bottom a ha
  · intro a ha
    rw [hmem]
    exact (hvisited a).mp ha
  · intro a ha
    exact hapart a ((hmem a).mp ha)
  · intro a ha
    exact hinv.finished a ((hvisited a).mpr (.inr ha)) fun hstack => hapart a hstack ha

/-- A `Loop` takes no more steps than there are nodes and edges in the graph. -/
theorem Loop.iterations_le {h : History} {s : Search g} (hloop : Loop accepts source h s)
    (hsource : source ∈ g.support) : h.iterations ≤ g.work g.support := by
  have hacc := hloop.accounts
  have hsub : h.pushed ⊆ g.support := by
    intro a ha
    rcases hacc.inside a ha with rfl | hmem
    · exact hsource
    · exact hmem
  have hwork := hacc.work
  -- Each node was put on the stack once, so the work that is done and to be done is at most that of
  -- all nodes.
  have hle := Digraph.work_le (g := g) hacc.once hsub
  omega

end Search

/-! ## The loop behind a path between functions -/

/-- **`findPath` between two functions ends, and keeps its invariant at every iteration.** The loop
is entered if both functions are known and the source is not accepted at once. It takes no more
iterations than there are names in the graph and edges that leave them; in a `Closed` graph the
names are those of the functions. -/
theorem CallGraph.findPath_loop (g : CallGraph) (source sink : String) (granularity : Granularity)
    (dest : Function) (hsource : source ∈ g.nodes) (hsink : g.find? sink = some dest)
    (hrejected : g.accepts granularity dest source = false) :
    (∃ (h : Search.History) (s : Search g.toDigraph),
      Search.Loop (g.accepts granularity dest) source h s ∧
      s.Stops (g.accepts granularity dest) (g.findPath source sink granularity)) ∧
    ∀ (h : Search.History) (s : Search g.toDigraph),
      Search.Loop (g.accepts granularity dest) source h s →
      Search.Iteration (g.accepts granularity dest) source h s ∧
      h.iterations ≤ g.toDigraph.work g.links.names.toList ∧
      (g.Closed → h.iterations ≤ g.toDigraph.work g.nodes.keys) := by
  constructor
  · obtain ⟨t, hsteps, hanswer⟩ :=
      Search.exists_steps_run (g.accepts granularity dest) (Search.start g.toDigraph source)
    obtain ⟨h, hloop⟩ := Search.exists_loop_of_steps hsteps
    refine ⟨h, t, hloop, ?_⟩
    -- The source is rejected, so `findPath` is the run whose steps make the loop.
    rw [findPath_eq_digraph hsource hsink, Digraph.findPath, hrejected]
    exact hanswer
  · intro h s hloop
    have hnames : source ∈ g.links.names.toList :=
      Std.TreeSet.mem_toList.mpr (g.nodes_names source hsource)
    have hle : h.iterations ≤ g.toDigraph.work g.links.names.toList := hloop.iterations_le hnames
    refine ⟨hloop.iteration hrejected, hle,
      fun hclosed => hle.trans (Digraph.work_le g.links.names_nodup ?_)⟩
    intro a ha
    exact Std.TreeMap.mem_keys.mpr (hclosed a (Std.TreeSet.mem_toList.mp ha))

/-- Two functions that call each other, one of which also calls itself, and a sink that none of them
calls: the loop goes round no cycle and stops after six steps at the latest. -/
theorem CallGraph.findPath_loop_of_cycle :
    let c : Settings := ⟨"m", "/", ["/a"], ["/c"], [], true, .file⟩
    let p : Program :=
      ⟨[⟨"m.a", "/a", 1⟩, ⟨"m.b", "/b", 1⟩, ⟨"m.c", "/c", 1⟩],
        [⟨"m.a", "m.b"⟩, ⟨"m.b", "m.a"⟩, ⟨"m.b", "m.b"⟩]⟩
    let g := CallGraph.ofModule (Module.ofProgram c p)
    let accepts := g.accepts .file ⟨"m.c", "/c", 1⟩
    g.neighbors "m.b" = ["m.a", "m.b"] ∧
      ∃ (h : Search.History) (s : Search g.toDigraph), Search.Loop accepts "m.a" h s ∧
        s.Stops accepts (g.findPath "m.a" "m.c" .file) ∧ Search.Iteration accepts "m.a" h s ∧
        h.iterations ≤ 6 := by
  intro c p g accepts
  have hsource : "m.a" ∈ g.nodes := Std.TreeMap.mem_iff_contains.mpr (by decide +kernel)
  have hsink : g.find? "m.c" = some ⟨"m.c", "/c", 1⟩ := by decide +kernel
  have hrejected : accepts "m.a" = false := by decide +kernel
  have hwork : g.toDigraph.work g.nodes.keys = 6 := by decide +kernel
  obtain ⟨⟨h, s, hloop, hstops⟩, hall⟩ :=
    CallGraph.findPath_loop g "m.a" "m.c" .file _ hsource hsink hrejected
  obtain ⟨hiteration, -, hle⟩ := hall h s hloop
  exact ⟨by decide +kernel, h, s, hloop, hstops, hiteration,
    hwork ▸ hle (CallGraph.closed_ofModule c p)⟩

end CallReach
