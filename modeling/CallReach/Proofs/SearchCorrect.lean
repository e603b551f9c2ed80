import CallReach.Proofs.SearchInvariant
import Mathlib.Data.List.Nodup

/-!
# Depth-first search finds the least path

A search finds a path if and only if an accepted node can be reached. With neighbours in ascending
order the path is the least of all paths, compared name by name. That is not obvious, since a search
never enters a node twice: it may have turned away from a node that is on the least path. `Guided`
says why it has not: whatever was tried in vain is cut off from accepted nodes by the beginning of
the path.

## Key results

- `findPath_eq_none_iff`: nothing is found exactly if no accepted node can be reached
- `findPath_isLeastPath`: what is found is the least path
- `findPath_not_accepted`: no node before the last one of the path is accepted
-/

namespace CallReach

namespace Search

variable {g : Digraph} {accepted : String → Prop}

/-! ## Guided paths -/

/-- The rest of a path from `a` on, where `before` holds `a` and the nodes before it. Neighbours
that come before the next node are `Blocked` by `before`. -/
def Guided (g : Digraph) (accepted : String → Prop) : List String → String → List String → Prop
  | _, a, [] => accepted a
  | before, a, b :: rest =>
    ¬ accepted a ∧
    (∃ tried pending, g.neighbors a = tried ++ b :: pending ∧
      ∀ x ∈ tried, Blocked g.Adj accepted before x) ∧
    Guided g accepted (b :: before) b rest

/-- `Guided` walks go along edges. -/
theorem Guided.isChain {before rest : List String} {a : String}
    (h : Guided g accepted before a rest) :
    (a :: rest).IsChain g.Adj := by
  induction rest generalizing before a with
  | nil => exact List.isChain_singleton a
  | cons b rest ih =>
    obtain ⟨_, ⟨tried, pending, hsplit, _⟩, hrest⟩ := h
    refine List.isChain_cons_cons.mpr ⟨?_, ih hrest⟩
    rw [Digraph.Adj, hsplit]
    exact List.mem_append_right tried List.mem_cons_self

/-- `Guided` walks end in an accepted name. -/
theorem Guided.last {before rest : List String} {a : String} (h : Guided g accepted before a rest) :
    ∃ b, (a :: rest).getLast? = some b ∧ accepted b := by
  induction rest generalizing before a with
  | nil => exact ⟨a, rfl, h⟩
  | cons b rest ih =>
    obtain ⟨_, _, hrest⟩ := h
    rw [List.getLast?_cons_cons]
    exact ih hrest

/-- No node before the last one of a `Guided` path is accepted. -/
private theorem Guided.not_accepted {before rest : List String} {a : String}
    (h : Guided g accepted before a rest) : ∀ b ∈ (a :: rest).dropLast, ¬ accepted b := by
  induction rest generalizing before a with
  | nil => simp
  | cons b rest ih =>
    obtain ⟨ha, _, hrest⟩ := h
    rw [List.dropLast_cons_cons]
    intro x hx
    rcases List.mem_cons.mp hx with rfl | hx
    · exact ha
    · exact ih hrest x hx

/-- With neighbours in ascending order, a `Guided` path is the least one among those that go on from
the same beginning. -/
theorem Guided.least (hsorted : ∀ a, (g.neighbors a).Pairwise Text.BytesLt)
    {before rest : List String} {a : String} (h : Guided g accepted before a rest)
    {other : List String} (hchain : (a :: other).IsChain g.Adj) (hnodup : other.Nodup)
    (hnew : ∀ x ∈ other, x ∉ before) (hlast : ∃ b, (a :: other).getLast? = some b ∧ accepted b) :
    other = rest ∨ List.Lex Text.BytesLt rest other := by
  induction rest generalizing before a other with
  | nil =>
    cases other with
    | nil => exact .inl rfl
    | cons p other => exact .inr List.Lex.nil
  | cons b rest ih =>
    obtain ⟨ha, ⟨tried, pending, hsplit, hblocked⟩, hrest⟩ := h
    cases other with
    | nil =>
      obtain ⟨x, hx, hacc⟩ := hlast
      cases hx
      exact absurd hacc ha
    | cons p other =>
      rw [List.isChain_cons_cons] at hchain
      rw [List.getLast?_cons_cons] at hlast
      -- The other path goes on to `p`, which was tried before `b`, is `b`, or comes after it.
      have hp : p ∈ tried ++ b :: pending := hsplit ▸ hchain.1
      have hascending := hsorted a
      rw [hsplit, List.pairwise_append, List.pairwise_cons] at hascending
      rcases List.mem_append.mp hp with hp | hp
      · -- The other path cannot have gone through a node that was tried in vain.
        obtain ⟨x, hx, hbefore⟩ := hblocked p hp other hchain.2 hlast
        exact absurd hbefore (hnew x hx)
      rcases List.mem_cons.mp hp with rfl | hp
      · rw [List.nodup_cons] at hnodup
        have hnew' : ∀ x ∈ other, x ∉ p :: before := by
          intro x hx hmem
          rcases List.mem_cons.mp hmem with rfl | hmem
          · exact hnodup.1 hx
          · exact hnew x (List.mem_cons_of_mem p hx) hmem
        rcases ih hrest hchain.2 hnodup.2 hnew' hlast with rfl | hlex
        · exact .inl rfl
        · exact .inr (List.Lex.cons hlex)
      · exact .inr (List.Lex.rel (hascending.2.1.1 p hp))

/-! ## From the stack to the path -/

variable {accepts : String → Bool} {source : String}

/-- A `Guided` path from the top of the stack is one from the bottom, through the stack. -/
private theorem Guided.unwind {f : Frame g} {below : List (Frame g)} {rest : List String}
    (hdesc : Descends accepts (f :: below))
    (hrej : ∀ a ∈ names (f :: below), accepts a = false)
    (h : Guided g (accepts · = true) (names (f :: below)) f.node rest) :
    ∃ bottom path, (names (f :: below)).getLast? = some bottom ∧
      (names (f :: below)).reverse ++ rest = bottom :: path ∧
      Guided g (accepts · = true) [bottom] bottom path := by
  -- By induction on the stack below: `Descends` says why each frame was entered from the one under
  -- it, which is what `Guided` asks for.
  induction below generalizing f rest with
  | nil => exact ⟨f.node, rest, rfl, rfl, h⟩
  | cons f' below ih =>
    obtain ⟨⟨tried, hsplit, hblocked⟩, hdesc'⟩ := hdesc
    have hnot : ¬ accepts f'.node = true := by
      rw [hrej f'.node (by simp)]
      exact Bool.false_ne_true
    have hguided : Guided g (accepts · = true) (names (f' :: below)) f'.node (f.node :: rest) :=
      ⟨hnot, ⟨tried, f'.pending.map (·.1), hsplit, hblocked⟩, h⟩
    have hrej' : ∀ a ∈ names (f' :: below), accepts a = false :=
      fun a ha => hrej a (List.mem_cons_of_mem _ ha)
    obtain ⟨bottom, path, hlast, heq, hpath⟩ := ih hdesc' hrej' hguided
    refine ⟨bottom, path, ?_, ?_, hpath⟩
    · simpa using hlast
    · simpa using heq

/-- When a search finds a path, the path is `Guided` from the source on, and repeats no node. -/
private theorem Invariant.guided_of_found {s : Search g} (h : s.Invariant accepts source)
    {path : List String} (hstep : s.step accepts = .found path) :
    path.Nodup ∧ ∃ rest, path = source :: rest ∧
      Guided g (accepts · = true) [source] source rest := by
  obtain ⟨node, c, pending, below, hstack, hc, hacc, rfl⟩ := step_found hstep
  have htrail : s.trail = (names s.stack).reverse := rfl
  refine ⟨?_, ?_⟩
  · rw [htrail, List.nodup_append]
    refine ⟨List.nodup_reverse.mpr h.distinct, List.nodup_singleton _, ?_⟩
    rintro a ha b hb rfl
    rw [List.mem_singleton.mp hb] at ha
    exact hc (h.entered _ (List.mem_reverse.mp ha))
  · obtain ⟨tried, hsplit, hvisited⟩ := h.tried ⟨node, c :: pending⟩ (by simp [hstack])
    have hrej : ∀ a ∈ names s.stack, accepts a = false := fun a ha => h.rejected a (h.entered a ha)
    have hdesc := h.descends
    -- The top of the stack is followed by the accepted node alone.
    have hnot : ¬ accepts node = true := by
      rw [hrej node (by simp [hstack])]
      exact Bool.false_ne_true
    have hguided : Guided g (accepts · = true) (names s.stack) node [c.1] :=
      ⟨hnot, ⟨tried, pending.map (·.1), by simpa using hsplit,
        fun b hb => h.blocked (hvisited b hb)⟩, hacc⟩
    have hbottom := h.bottom
    rw [htrail]
    rw [hstack] at hdesc hrej hguided hbottom ⊢
    obtain ⟨bottom, rest, hlast, heq, hpath⟩ := Guided.unwind hdesc hrej hguided
    rw [hbottom bottom hlast] at heq hpath
    exact ⟨rest, heq, hpath⟩

/-- When a search is exhausted, nothing that can be reached from the source is accepted: the stack
is empty, so no edge leaves the visited nodes. -/
private theorem Invariant.rejected_of_exhausted {s : Search g} (h : s.Invariant accepts source)
    (hstep : s.step accepts = .exhausted) {a : String} (ha : Relation.ReflTransGen g.Adj source a) :
    accepts a = false := by
  have hempty := step_exhausted hstep
  refine h.rejected a (mem_of_reaches_of_closed (· ∈ s.visited) ?_ ha h.source_visited)
  intro b hb c hc
  exact h.finished b hb (by simp [hempty]) c hc

end Search

/-! ## The answer of a search -/

namespace Digraph

variable {g : Digraph} {accepts : String → Bool} {source : String}

/-- What `findPath` finds is `Guided` from the source on, and repeats no node. -/
private theorem findPath_guided {path : List String} (h : g.findPath accepts source = some path) :
    path.Nodup ∧ ∃ rest, path = source :: rest ∧
      Search.Guided g (accepts · = true) [source] source rest := by
  unfold findPath at h
  split at h
  · rename_i hacc
    cases h
    exact ⟨List.nodup_singleton source, [], rfl, hacc⟩
  · rename_i hrej
    -- The source itself is rejected, so the loop runs, and it ends in one of two ways.
    have hinv := Search.invariant_start (g := g) (Bool.eq_false_iff.mpr hrej)
    obtain ⟨t, hsteps, ⟨_, hnone⟩ | ⟨found, hstep, hsome⟩⟩ :=
      Search.exists_steps_run accepts (Search.start g source)
    · rw [h] at hnone
      cases hnone
    · rw [h] at hsome
      cases hsome
      exact (hinv.steps hsteps).guided_of_found hstep

/-- If `findPath` finds nothing, no accepted node can be reached. -/
private theorem rejected_of_findPath_eq_none (h : g.findPath accepts source = none) {a : String}
    (ha : Relation.ReflTransGen g.Adj source a) : accepts a = false := by
  unfold findPath at h
  split at h
  · cases h
  · rename_i hrej
    have hinv := Search.invariant_start (g := g) (Bool.eq_false_iff.mpr hrej)
    obtain ⟨t, hsteps, ⟨hstep, _⟩ | ⟨found, _, hsome⟩⟩ :=
      Search.exists_steps_run accepts (Search.start g source)
    · exact (hinv.steps hsteps).rejected_of_exhausted hstep ha
    · rw [h] at hsome
      cases hsome

private theorem findPath_isPath {path : List String} (h : g.findPath accepts source = some path) :
    IsPath g.Adj (accepts · = true) source path := by
  obtain ⟨hnodup, rest, rfl, hguided⟩ := findPath_guided h
  exact ⟨rfl, hguided.isChain, hnodup, hguided.last⟩

/-- `findPath` finds nothing exactly if no accepted node can be reached. -/
theorem findPath_eq_none_iff :
    g.findPath accepts source = none ↔ ¬ ∃ a, Relation.ReflTransGen g.Adj source a ∧
      accepts a = true := by
  constructor
  · rintro h ⟨a, ha, hacc⟩
    rw [rejected_of_findPath_eq_none h ha] at hacc
    cases hacc
  · intro h
    cases hpath : g.findPath accepts source with
    | none => rfl
    | some path => exact absurd (findPath_isPath hpath).reaches h

/-- With neighbours in ascending order, `findPath` finds the least path. -/
theorem findPath_isLeastPath (hsorted : ∀ a, (g.neighbors a).Pairwise Text.BytesLt)
    {path : List String} (h : g.findPath accepts source = some path) :
    IsLeastPath g.Adj (accepts · = true) source path := by
  refine ⟨findPath_isPath h, ?_⟩
  obtain ⟨_, rest, rfl, hguided⟩ := findPath_guided h
  intro other hother
  -- Every other path starts at the source too, so the two are compared from there on.
  obtain ⟨tail, rfl⟩ : ∃ tail, other = source :: tail := by
    have hhead := hother.head
    cases other with
    | nil => cases hhead
    | cons a tail =>
      cases hhead
      exact ⟨tail, rfl⟩
  have hnodup := List.nodup_cons.mp hother.nodup
  have hnew : ∀ x ∈ tail, x ∉ [source] := by
    intro x hx hmem
    rw [List.mem_singleton.mp hmem] at hx
    exact hnodup.1 hx
  rcases hguided.least hsorted hother.chain hnodup.2 hnew hother.last with rfl | hlex
  · exact .inl rfl
  · exact .inr (List.Lex.cons hlex)

/-- No node before the last one of the path that `findPath` finds is accepted. -/
theorem findPath_not_accepted {path : List String} (h : g.findPath accepts source = some path) :
    ∀ a ∈ path.dropLast, accepts a = false := by
  obtain ⟨_, rest, rfl, hguided⟩ := findPath_guided h
  intro a ha
  exact Bool.eq_false_iff.mpr (hguided.not_accepted a ha)

end Digraph

end CallReach
