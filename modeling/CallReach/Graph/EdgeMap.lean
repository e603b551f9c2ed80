import CallReach.Program
import Std.Data.TreeMap
import Std.Data.TreeMap.Lemmas
import Std.Data.TreeSet
import Std.Data.TreeSet.Lemmas

/-!
# Edges with kinds

A directed graph over names: a set of names, and a map from pairs of them to the kind of the edge
between them. To connect two names adds those that are missing.
-/

namespace CallReach

/-- Why one function is connected to another. -/
inductive EdgeKind where
  | call
  | closure
  deriving DecidableEq, Repr

/-- The name of a kind of edge. -/
def EdgeKind.text : EdgeKind → String
  | call => "call"
  | closure => "closure"

/-- An edge with its kind. -/
structure Edge extends Call where
  kind : EdgeKind
  deriving DecidableEq, Repr

/-- Names, and for each of them its neighbours with the kinds of the edges. -/
structure EdgeMap where
  names : Std.TreeSet String := ∅
  rows : Std.TreeMap String (Std.TreeMap String EdgeKind) := ∅
  rows_names : ∀ a b, b ∈ rows.getD a ∅ → a ∈ names ∧ b ∈ names

namespace EdgeMap

/-- No names and no edges. -/
def empty : EdgeMap where
  rows_names a b h := by simp at h

/-- Adds a name, without edges unless it was there. -/
def addName (m : EdgeMap) (a : String) : EdgeMap :=
  { m with
    names := m.names.insert a
    rows_names := fun x y h => by
      obtain ⟨hx, hy⟩ := m.rows_names x y h
      exact ⟨Std.TreeSet.mem_insert.mpr (.inr hx), Std.TreeSet.mem_insert.mpr (.inr hy)⟩ }

/-- The edges that leave a name. -/
def row (m : EdgeMap) (a : String) : Std.TreeMap String EdgeKind := m.rows.getD a ∅

/-- The names that edges lead to from a name, in order. -/
def neighbors (m : EdgeMap) (a : String) : List String := (m.row a).keys

/-- The kind of the edge between two names, if there is one. -/
def kind? (m : EdgeMap) (a b : String) : Option EdgeKind := (m.row a)[b]?

/-- The edges in order. -/
def edges (m : EdgeMap) : List Edge :=
  m.rows.toList.flatMap fun (a, row) =>
    row.toList.map fun (b, kind) => { caller := a, callee := b, kind }

/-- The number of edges. -/
def edgeCount (m : EdgeMap) : Nat := m.rows.toList.foldr (fun entry n => entry.2.size + n) 0

/-- Connects two names, which are added if they are missing. An edge that was there takes the new
kind. -/
def connect (m : EdgeMap) (c : Call) (kind : EdgeKind) : EdgeMap where
  names := (m.names.insert c.caller).insert c.callee
  rows := m.rows.insert c.caller ((m.row c.caller).insert c.callee kind)
  rows_names := by
    intro a b hb
    simp only [Std.TreeSet.mem_insert, Std.LawfulEqOrd.compare_eq_iff_eq]
    rw [Std.TreeMap.getD_insert] at hb
    split at hb
    · rename_i ha
      obtain rfl := Std.LawfulEqOrd.eq_of_compare ha
      refine ⟨.inr (.inl rfl), ?_⟩
      rcases Std.TreeMap.mem_insert.mp hb with hb | hb
      · exact .inl (Std.LawfulEqOrd.eq_of_compare hb)
      · exact .inr (.inr (m.rows_names _ _ hb).2)
    · exact ⟨.inr (.inr (m.rows_names _ _ hb).1), .inr (.inr (m.rows_names _ _ hb).2)⟩

/-- The names after connecting two. -/
theorem mem_names_connect_iff {m : EdgeMap} {c : Call} {kind : EdgeKind} {a : String} :
    a ∈ (m.connect c kind).names ↔ a = c.caller ∨ a = c.callee ∨ a ∈ m.names := by
  simp only [connect, Std.TreeSet.mem_insert, Std.LawfulEqOrd.compare_eq_iff_eq, eq_comm (b := a)]
  exact or_left_comm

/-- The names after adding some. -/
theorem mem_names_foldl_addName_iff {names : List String} {m : EdgeMap} {a : String} :
    a ∈ (names.foldl addName m).names ↔ a ∈ names ∨ a ∈ m.names := by
  induction names generalizing m with
  | nil => simp
  | cons name names ih =>
    rw [List.foldl_cons, ih, addName, Std.TreeSet.mem_insert, Std.LawfulEqOrd.compare_eq_iff_eq,
      List.mem_cons, eq_comm, or_assoc]
    exact or_left_comm

/-- The names after connecting some pairs. -/
theorem mem_names_foldl_connect_iff {calls : List Call} {kind : EdgeKind} {m : EdgeMap}
    {a : String} :
    a ∈ (calls.foldl (fun m c => m.connect c kind) m).names ↔
      (∃ c ∈ calls, a = c.caller ∨ a = c.callee) ∨ a ∈ m.names := by
  induction calls generalizing m with
  | nil => simp
  | cons c calls ih =>
    rw [List.foldl_cons, ih, mem_names_connect_iff]
    simp only [List.mem_cons, exists_eq_or_imp, or_assoc]
    grind

end EdgeMap

end CallReach
