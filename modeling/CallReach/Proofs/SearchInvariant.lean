import CallReach.Graph.Search
import CallReach.Proofs.Walks

/-!
# The invariant of depth-first search

What holds between any two steps of a search: the stack is a path from the source, visited nodes
have been rejected, and the neighbours of a visited node have been visited unless the node is still
on the stack. `Descends` adds why the search went down the way it did: whatever it tried before
cannot get to an accepted node without meeting the stack below.

## Key results

- `step_cases`: what a step that goes on can do
- `Invariant.step`: a step keeps the invariant
- `exists_steps_run`: a run is a finite number of steps, and the last of them gives the answer
-/

namespace CallReach.Search

variable {g : Digraph} {accepts : String → Bool} {source : String}

/-! ## Steps -/

/-- The nodes of frames, in the same order. -/
def names (stack : List (Frame g)) : List String := stack.map (·.node)

@[simp] theorem names_nil : names ([] : List (Frame g)) = [] := rfl

@[simp] theorem names_cons (f : Frame g) (stack : List (Frame g)) :
    names (f :: stack) = f.node :: names stack := rfl

/-- `next` lists the `neighbors` of a node, with the proof that they belong to the support. -/
private theorem map_next (a : String) : (g.next a).map (·.1) = g.neighbors a :=
  List.attachWith_map_subtype_val _

/-- A `step` that goes on leaves the node on top, skips a neighbour of it or enters one. -/
theorem step_cases {s s' : Search g} (h : s.step accepts = .running s') :
    (∃ node rest, s.stack = ⟨node, []⟩ :: rest ∧ s' = { s with stack := rest }) ∨
    (∃ node c pending rest, s.stack = ⟨node, c :: pending⟩ :: rest ∧ c.1 ∈ s.visited ∧
      s' = { s with stack := ⟨node, pending⟩ :: rest }) ∨
    (∃ node c pending rest, s.stack = ⟨node, c :: pending⟩ :: rest ∧ c.1 ∉ s.visited ∧
      accepts c.1 = false ∧
      s' = { stack := ⟨c.1, g.next c.1⟩ :: ⟨node, pending⟩ :: rest
             visited := s.visited.insert c.1 }) := by
  -- One case for each branch of `step` in which the search goes on.
  unfold step at h
  split at h
  · cases h
  · rename_i node rest hstack
    cases h
    exact .inl ⟨node, rest, hstack, rfl⟩
  · rename_i node c pending rest hstack
    split at h
    · rename_i hv
      cases h
      exact .inr (.inl ⟨node, c, pending, rest, hstack, Std.TreeSet.mem_iff_contains.mpr hv, rfl⟩)
    · rename_i hv
      split at h
      · cases h
      · rename_i ha
        cases h
        refine .inr (.inr ⟨node, c, pending, rest, hstack, ?_, Bool.eq_false_iff.mpr ha, rfl⟩)
        exact fun hmem => hv (Std.TreeSet.mem_iff_contains.mp hmem)

/-- A `step` that finds a path ends it with a new and accepted neighbour of the node on top. -/
theorem step_found {s : Search g} {path : List String} (h : s.step accepts = .found path) :
    ∃ node c pending rest, s.stack = ⟨node, c :: pending⟩ :: rest ∧ c.1 ∉ s.visited ∧
      accepts c.1 = true ∧ path = s.trail ++ [c.1] := by
  unfold step at h
  split at h
  · cases h
  · cases h
  · rename_i node c pending rest hstack
    split at h
    · cases h
    · rename_i hv
      split at h
      · rename_i ha
        cases h
        exact ⟨node, c, pending, rest, hstack,
          fun hmem => hv (Std.TreeSet.mem_iff_contains.mp hmem), ha, rfl⟩
      · cases h

theorem step_exhausted {s : Search g} (h : s.step accepts = .exhausted) : s.stack = [] := by
  unfold step at h
  split at h
  · assumption
  · cases h
  · split at h
    · cases h
    · split at h <;> cases h

/-- One search comes out of another one by steps that go on. -/
def Steps (accepts : String → Bool) : Search g → Search g → Prop :=
  Relation.ReflTransGen fun s t => s.step accepts = .running t

/-- A `run` is a finite number of `Steps`, and the step after them gives the answer. -/
theorem exists_steps_run (accepts : String → Bool) (s : Search g) :
    ∃ t, Steps accepts s t ∧
      (t.step accepts = .exhausted ∧ s.run accepts = none ∨
        ∃ path, t.step accepts = .found path ∧ s.run accepts = some path) := by
  fun_induction run accepts s with
  | case1 s path h => exact ⟨s, .refl, .inr ⟨path, h, rfl⟩⟩
  | case2 s h => exact ⟨s, .refl, .inl ⟨h, rfl⟩⟩
  | case3 s s' h ih =>
    obtain ⟨t, hsteps, hend⟩ := ih
    exact ⟨t, .head h hsteps, hend⟩

/-! ## The invariant -/

/-- Every frame on the stack was entered from the one below, after neighbours that cannot get to an
accepted node without meeting the stack from there on. -/
def Descends (accepts : String → Bool) : List (Frame g) → Prop
  | child :: f :: below =>
    (∃ tried, g.neighbors f.node = tried ++ child.node :: f.pending.map (·.1) ∧
      ∀ b ∈ tried, Blocked g.Adj (accepts · = true) (names (f :: below)) b) ∧
    Descends accepts (f :: below)
  | _ => True

/-- What holds between any two steps of a search. A node is finished if it has been visited and is
not on the stack any more. -/
structure Invariant (accepts : String → Bool) (source : String) (s : Search g) : Prop where
  distinct : (names s.stack).Nodup
  bottom : ∀ a, (names s.stack).getLast? = some a → a = source
  entered : ∀ a ∈ names s.stack, a ∈ s.visited
  source_visited : source ∈ s.visited
  rejected : ∀ a ∈ s.visited, accepts a = false
  finished : ∀ a ∈ s.visited, a ∉ names s.stack → ∀ b ∈ g.neighbors a, b ∈ s.visited
  tried : ∀ f ∈ s.stack, ∃ tried, g.neighbors f.node = tried ++ f.pending.map (·.1) ∧
    ∀ b ∈ tried, b ∈ s.visited
  descends : Descends accepts s.stack

/-- What a search has visited is `Blocked` by its stack. -/
theorem Invariant.blocked {s : Search g} (h : s.Invariant accepts source) {a : String}
    (ha : a ∈ s.visited) : Blocked g.Adj (accepts · = true) (names s.stack) a := by
  refine blocked_of_closed (· ∈ s.visited) ?_ h.finished ha
  intro b hb
  rw [h.rejected b hb]
  exact Bool.false_ne_true

/-- The `Invariant` holds at the start, if the source itself is not accepted. -/
theorem invariant_start (h : accepts source = false) :
    (start g source).Invariant accepts source where
  distinct := by simp [start]
  bottom a ha := by simpa [start, eq_comm] using ha
  entered a ha := by
    rw [List.mem_singleton.mp ha]
    exact Std.TreeSet.mem_insert_self
  source_visited := Std.TreeSet.mem_insert_self
  rejected a ha := by
    rw [start, mem_insert_iff] at ha
    rcases ha with rfl | ha
    · exact h
    · simp at ha
  finished a ha hout := by
    rw [start, mem_insert_iff] at ha
    rcases ha with rfl | ha
    · simp [start] at hout
    · simp at ha
  tried f hf := by
    rw [List.mem_singleton.mp hf]
    exact ⟨[], (map_next source).symm, by simp⟩
  descends := trivial

/-- To leave the node on top keeps the `Invariant`: all neighbours of that node have been
visited. -/
theorem Invariant.leave {s : Search g} {node : String} {rest : List (Frame g)}
    (h : s.Invariant accepts source) (hstack : s.stack = ⟨node, []⟩ :: rest) :
    Invariant accepts source { s with stack := rest } := by
  obtain ⟨stack, visited⟩ := s
  dsimp only at hstack
  subst hstack
  have hsub : ∀ f ∈ rest, f ∈ (⟨node, []⟩ :: rest : List (Frame g)) :=
    fun f => List.mem_cons_of_mem _
  refine ⟨(List.nodup_cons.mp h.distinct).2, ?_,
    fun a ha => h.entered a (List.mem_cons_of_mem _ ha), h.source_visited, h.rejected, ?_,
    fun f hf => h.tried f (hsub f hf), ?_⟩
  · intro a ha
    apply h.bottom
    rw [names_cons, List.getLast?_cons, ha, Option.getD_some]
  · intro a ha hout b hb
    -- The node that leaves the stack has no neighbours left to try, so it has tried all of them.
    by_cases hnode : a = node
    · subst hnode
      obtain ⟨tried, hsplit, hvisited⟩ := h.tried _ List.mem_cons_self
      rw [List.map_nil, List.append_nil] at hsplit
      exact hvisited b (hsplit ▸ hb)
    · exact h.finished a ha (by simp [hnode, hout]) b hb
  · cases rest with
    | nil => trivial
    | cons f below => exact h.descends.2

/-- To skip a visited neighbour of the node on top keeps the `Invariant`. -/
theorem Invariant.skip {s : Search g} {node : String} {c : g.Node} {pending : List g.Node}
    {rest : List (Frame g)} (h : s.Invariant accepts source)
    (hstack : s.stack = ⟨node, c :: pending⟩ :: rest) (hc : c.1 ∈ s.visited) :
    Invariant accepts source { s with stack := ⟨node, pending⟩ :: rest } := by
  obtain ⟨stack, visited⟩ := s
  dsimp only at hstack
  subst hstack
  refine ⟨h.distinct, h.bottom, h.entered, h.source_visited, h.rejected, h.finished, ?_, ?_⟩
  · intro f hf
    rcases List.mem_cons.mp hf with rfl | hf
    · -- The neighbour that is passed over joins those that have been tried.
      obtain ⟨tried, hsplit, hvisited⟩ := h.tried _ List.mem_cons_self
      refine ⟨tried ++ [c.1], by simpa using hsplit, ?_⟩
      intro b hb
      rcases List.mem_append.mp hb with hb | hb
      · exact hvisited b hb
      · rw [List.mem_singleton.mp hb]
        exact hc
    · exact h.tried f (List.mem_cons_of_mem _ hf)
  · cases rest with
    | nil => trivial
    | cons f below => exact h.descends

/-- To enter a new and rejected neighbour of the node on top keeps the `Invariant`. -/
theorem Invariant.enter {s : Search g} {node : String} {c : g.Node} {pending : List g.Node}
    {rest : List (Frame g)} (h : s.Invariant accepts source)
    (hstack : s.stack = ⟨node, c :: pending⟩ :: rest) (hc : c.1 ∉ s.visited)
    (ha : accepts c.1 = false) :
    Invariant accepts source
      { stack := ⟨c.1, g.next c.1⟩ :: ⟨node, pending⟩ :: rest
        visited := s.visited.insert c.1 } := by
  -- Everything on the stack has been visited, so a new node is not on it.
  have hfresh : c.1 ∉ names s.stack := fun hmem => hc (h.entered _ hmem)
  have hblocked : ∀ {a}, a ∈ s.visited → Blocked g.Adj (accepts · = true) (names s.stack) a :=
    h.blocked
  obtain ⟨stack, visited⟩ := s
  dsimp only at hstack hc
  subst hstack
  have hmono : ∀ {a}, a ∈ visited → a ∈ visited.insert c.1 :=
    fun ha => mem_insert_iff.mpr (.inr ha)
  -- The neighbour that is skipped joins those that have been tried.
  obtain ⟨tried, hsplit, hvisited⟩ := h.tried _ List.mem_cons_self
  refine ⟨List.nodup_cons.mpr ⟨hfresh, h.distinct⟩, ?_, ?_, hmono h.source_visited, ?_, ?_, ?_, ?_⟩
  · intro a hlast
    exact h.bottom a hlast
  · intro a hmem
    rcases List.mem_cons.mp hmem with rfl | hmem
    · exact Std.TreeSet.mem_insert_self
    · exact hmono (h.entered a hmem)
  · intro a hmem
    rcases mem_insert_iff.mp hmem with rfl | hmem
    · exact ha
    · exact h.rejected a hmem
  · intro a hmem hout b hb
    rw [names_cons, List.mem_cons, not_or] at hout
    have hold := (mem_insert_iff.mp hmem).resolve_left hout.1
    exact hmono (h.finished a hold hout.2 b hb)
  · intro f hf
    rcases List.mem_cons.mp hf with rfl | hf
    · exact ⟨[], (map_next c.1).symm, by simp⟩
    · rcases List.mem_cons.mp hf with rfl | hf
      · refine ⟨tried ++ [c.1], by simpa using hsplit, ?_⟩
        intro b hb
        rcases List.mem_append.mp hb with hb | hb
        · exact hmono (hvisited b hb)
        · rw [List.mem_singleton.mp hb]
          exact Std.TreeSet.mem_insert_self
      · obtain ⟨tried', hsplit', hvisited'⟩ := h.tried f (List.mem_cons_of_mem _ hf)
        exact ⟨tried', hsplit', fun b hb => hmono (hvisited' b hb)⟩
  · -- What was tried before has been visited, and the stack has not changed below.
    refine ⟨⟨tried, by simpa using hsplit, fun b hb => hblocked (hvisited b hb)⟩, ?_⟩
    cases rest with
    | nil => trivial
    | cons f below => exact h.descends

/-- Every `step` that goes on keeps the `Invariant`. -/
theorem Invariant.step {s s' : Search g} (h : s.Invariant accepts source)
    (hstep : s.step accepts = .running s') : s'.Invariant accepts source := by
  rcases step_cases hstep with ⟨node, rest, hstack, rfl⟩ |
    ⟨node, c, pending, rest, hstack, hc, rfl⟩ | ⟨node, c, pending, rest, hstack, hc, ha, rfl⟩
  · exact h.leave hstack
  · exact h.skip hstack hc
  · exact h.enter hstack hc ha

/-- The `Invariant` is kept by a run, by induction on its steps. -/
theorem Invariant.steps {s t : Search g} (h : s.Invariant accepts source)
    (hsteps : Steps accepts s t) : t.Invariant accepts source := by
  induction hsteps with
  | refl => exact h
  | tail _ hstep ih => exact ih.step hstep

end CallReach.Search
