import CallReach.Graph.Digraph
import CallReach.Proofs.ByteOrder
import Mathlib.Data.List.Chain

/-!
# Walks and paths

What the searches are measured against. One node reaches another one if a walk leads there; a path
is a walk that repeats no node and ends at an accepted one, and the least path is the first one by
the bytes of the names on it. Some nodes block another one if no walk gets from there to an accepted
node without meeting them.

## Key results

- `reaches_of_isChain`: every node on a walk is reached from its first one
- `blocked_of_closed`: nodes that edges leave only through blocking nodes are blocked
-/

namespace CallReach

/-- `g.Adj a b`: an edge leads from `a` to `b`. -/
def Digraph.Adj {α : Type} (g : Digraph α) (a b : α) : Prop := b ∈ g.neighbors a

/-- `path` leads along `adj` from `source` to an `accepted` node and repeats no node. -/
structure IsPath (adj : String → String → Prop) (accepted : String → Prop) (source : String)
    (path : List String) : Prop where
  head : path.head? = some source
  chain : path.IsChain adj
  nodup : path.Nodup
  last : ∃ a, path.getLast? = some a ∧ accepted a

/-- A path that comes before every other one by `Text.BytesLt` on the names. A path comes before the
ones that go on from its end. -/
structure IsLeastPath (adj : String → String → Prop) (accepted : String → Prop) (source : String)
    (path : List String) : Prop extends IsPath adj accepted source path where
  least : ∀ other, IsPath adj accepted source other → other = path ∨
    List.Lex Text.BytesLt path other

/-- Every walk along `adj` from `a` to an `accepted` node meets one of `nodes`. -/
def Blocked (adj : String → String → Prop) (accepted : String → Prop) (nodes : List String)
    (a : String) : Prop :=
  ∀ walk, (a :: walk).IsChain adj → (∃ b, (a :: walk).getLast? = some b ∧ accepted b) →
    ∃ x ∈ a :: walk, x ∈ nodes

variable {adj : String → String → Prop} {accepted : String → Prop}

/-- Every node on a walk is reached from its first one. -/
theorem reaches_of_isChain {source b : String} {path : List String} (hh : path.head? = some source)
    (hc : path.IsChain adj) (hb : b ∈ path) : Relation.ReflTransGen adj source b := by
  -- By induction on the path, whose second node is the source of the rest.
  induction path generalizing source with
  | nil => cases hb
  | cons a rest ih =>
    cases hh
    rcases List.mem_cons.mp hb with rfl | hb
    · exact Relation.ReflTransGen.refl
    · cases rest with
      | nil => cases hb
      | cons c rest =>
        rw [List.isChain_cons_cons] at hc
        exact Relation.ReflTransGen.head hc.1 (ih rfl hc.2 hb)

/-- The last node of an `IsPath` is accepted and is reached from its source. -/
theorem IsPath.reaches {source : String} {path : List String}
    (h : IsPath adj accepted source path) :
    ∃ a, Relation.ReflTransGen adj source a ∧ accepted a := by
  obtain ⟨a, hlast, ha⟩ := h.last
  exact ⟨a, reaches_of_isChain h.head h.chain (List.mem_of_getLast? hlast), ha⟩

/-- `visited` nodes are `Blocked` by `nodes` if none of them is accepted and every edge that leaves
`visited` starts at one of `nodes`. -/
theorem blocked_of_closed (visited : String → Prop) {nodes : List String}
    (hrejected : ∀ a, visited a → ¬ accepted a)
    (hclosed : ∀ a, visited a → a ∉ nodes → ∀ b, adj a b → visited b)
    {a : String} (ha : visited a) : Blocked adj accepted nodes a := by
  intro walk
  induction walk generalizing a with
  | nil =>
    rintro - ⟨b, hlast, hb⟩
    cases hlast
    exact absurd hb (hrejected a ha)
  | cons c walk ih =>
    rintro hchain ⟨b, hlast, hb⟩
    by_cases hmem : a ∈ nodes
    · exact ⟨a, List.mem_cons_self, hmem⟩
    · rw [List.isChain_cons_cons] at hchain
      rw [List.getLast?_cons_cons] at hlast
      -- The walk goes on inside the visited nodes.
      obtain ⟨x, hx, hxn⟩ := ih (hclosed a ha hmem c hchain.1) hchain.2 ⟨b, hlast, hb⟩
      exact ⟨x, List.mem_cons_of_mem a hx, hxn⟩

/-- A `visited` set that no edge leaves holds everything its members reach. -/
theorem mem_of_reaches_of_closed {α : Type} {adj : α → α → Prop} (visited : α → Prop)
    (hclosed : ∀ a, visited a → ∀ b, adj a b → visited b)
    {a b : α} (h : Relation.ReflTransGen adj a b) (ha : visited a) : visited b := by
  induction h with
  | refl => exact ha
  | tail _ hadj ih => exact hclosed _ ih _ hadj

theorem mem_insert_iff {visited : Std.TreeSet String} {a b : String} :
    b ∈ visited.insert a ↔ b = a ∨ b ∈ visited := by
  rw [Std.TreeSet.mem_insert, Std.LawfulEqOrd.compare_eq_iff_eq, eq_comm]

end CallReach
