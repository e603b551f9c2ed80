import CallReach.Proofs.ByteOrder
import CallReach.Proofs.PathResolution
import Mathlib.Data.List.Sort

/-!
# The order of paths

Paths are sorted component by component, not by the bytes of their text: `a/b` comes before `a-b`,
although a dash comes before a slash. Here the comparison of paths is set against the order it
stands for, and sorting against what a sorted list is.

## Key results

- `Component.compare_eq`: components are compared by kind, then by text
- `order_eq_lt_iff`: one list of components comes before another one
- `sort_perm`, `sort_ascending`: sorting paths
- `eq_of_ascending`: an ascending list of paths is known by its members
-/

namespace CallReach.Path

namespace Component

/-- The place of a component among the kinds of components. -/
def rank : Component → Nat
  | root => 0
  | here => 1
  | up => 2
  | name _ => 3

/-- One component comes before another one: by kind, then by the bytes of the name. -/
def Before (a b : Component) : Prop :=
  a.rank < b.rank ∨ a.rank = b.rank ∧ Text.BytesLt a.text b.text

private theorem compare_name (s t : String) : compare (name s) (name t) = compare s t := by
  show (compare s t).then .eq = _
  exact Ordering.then_eq

/-- `compare` on components goes by kind, then by text. -/
theorem compare_eq (a b : Component) :
    compare a b = compareLex (compareOn rank) (compareOn text) a b := by
  cases a <;> cases b <;> simp [compareLex, compareOn, rank, text, compare_name] <;> rfl

instance : Std.TransOrd Component := by
  have heq : (compare : Component → Component → Ordering) =
      compareLex (compareOn rank) (compareOn text) := by
    funext a b
    exact compare_eq a b
  unfold Std.TransOrd
  rw [heq]
  infer_instance

instance : Std.LawfulEqOrd Component where
  eq_of_compare {a b} h := by
    rw [compare_eq, compareLex, Ordering.then_eq_eq] at h
    have hrank : a.rank = b.rank := Std.LawfulEqOrd.eq_of_compare h.1
    have htext : a.text = b.text := Std.LawfulEqOrd.eq_of_compare h.2
    cases a <;> cases b <;> simp_all [rank, text]

/-- `compare` gives `.lt` exactly if the one component comes `Before` the other. -/
theorem compare_eq_lt_iff {a b : Component} : compare a b = .lt ↔ a.Before b := by
  rw [compare_eq, compareLex, Ordering.then_eq_lt, Before]
  simp only [compareOn, Nat.compare_eq_lt, Nat.compare_eq_eq, Text.compare_eq_lt_iff]

end Component

/-- One path comes before another one, component by component. -/
def Before (p q : String) : Prop := List.Lex Component.Before (components p) (components q)

private theorem order_eq_compare (as bs : List Component) : le.order as bs = compare as bs := by
  induction as generalizing bs with
  | nil => cases bs <;> rfl
  | cons a as ih =>
    cases bs with
    | nil => rfl
    | cons b bs =>
      rw [le.order, ih, List.compare_cons_cons]

/-- `le.order` gives `.lt` exactly for lists in lexicographic order. -/
theorem order_eq_lt_iff {as bs : List Component} :
    le.order as bs = .lt ↔ List.Lex Component.Before as bs := by
  induction as generalizing bs with
  | nil => cases bs <;> simp [le.order]
  | cons a as ih =>
    cases bs with
    | nil => simp [le.order]
    | cons b bs =>
      -- The first components decide, or are the same and the others do.
      rw [le.order, Ordering.then_eq_lt, ih, Component.compare_eq_lt_iff,
        Std.LawfulEqOrd.compare_eq_iff_eq]
      constructor
      · rintro (h | ⟨rfl, h⟩)
        · exact .rel h
        · exact .cons h
      · intro h
        cases h with
        | rel h => exact .inl h
        | cons h => exact .inr ⟨rfl, h⟩

theorem not_before_self (p : String) : ¬ Before p p := by
  intro h
  have hself : le.order (components p) (components p) = .lt := order_eq_lt_iff.mpr h
  rw [order_eq_compare, Std.ReflOrd.compare_self] at hself
  cases hself

private theorem Before.asymm {p q : String} (h : Before p q) : ¬ Before q p := by
  intro h'
  have hpq : compare (components p) (components q) = .lt :=
    order_eq_compare _ _ ▸ order_eq_lt_iff.mpr h
  have hqp : compare (components q) (components p) = .lt :=
    order_eq_compare _ _ ▸ order_eq_lt_iff.mpr h'
  rw [Std.OrientedOrd.eq_swap, hpq] at hqp
  cases hqp

/-- `le` holds if the one path comes `Before` the other, or both have the same components. -/
private theorem le_iff {p q : String} :
    le p q = true ↔ Before p q ∨ components p = components q := by
  have hsame : components p = components q ↔ le.order (components p) (components q) = .eq := by
    rw [order_eq_compare, Std.LawfulEqOrd.compare_eq_iff_eq]
  rw [Before, ← order_eq_lt_iff, hsame, le]
  cases le.order (components p) (components q) <;> decide

/-! ## Sorting -/

instance : IsTrans String (le · · = true) where
  trans p q r hpq hqr := by
    unfold le at hpq hqr ⊢
    rw [order_eq_compare] at hpq hqr ⊢
    exact Std.TransCmp.isLE_trans hpq hqr

instance : Std.Total (le · · = true) where
  total p q := by
    unfold le
    rw [order_eq_compare, order_eq_compare, Std.OrientedOrd.eq_swap (a := components q)]
    cases compare (components p) (components q) <;> simp

/-- `sort` is `List.insertionSort`. -/
private theorem sort_eq_insertionSort (paths : List String) :
    sort paths = paths.insertionSort (le · · = true) := by
  have hinsert : ∀ p qs, insertSorted p qs = qs.orderedInsert (le · · = true) p := by
    intro p qs
    induction qs with
    | nil => rfl
    | cons q qs ih => rw [insertSorted, List.orderedInsert_cons, ih]
  induction paths with
  | nil => rfl
  | cons p paths ih =>
    rw [List.insertionSort_cons, ← ih, ← hinsert]
    rfl

/-- `sort` loses no path and adds none. -/
theorem sort_perm (paths : List String) : (sort paths).Perm paths := by
  rw [sort_eq_insertionSort]
  exact List.perm_insertionSort _ paths

/-- `sort` makes paths with different components strictly ascending. -/
theorem sort_ascending {paths : List String} (h : (paths.map components).Nodup) :
    (sort paths).Pairwise Before := by
  have hle : (sort paths).Pairwise (le · · = true) := by
    rw [sort_eq_insertionSort]
    exact List.pairwise_insertionSort _ paths
  have hdistinct : (sort paths).Pairwise fun p q => components p ≠ components q :=
    List.pairwise_map.mp (((sort_perm paths).map components).nodup_iff.mpr h)
  refine (hle.and hdistinct).imp ?_
  -- Neighbours that are not ascending would have the same components.
  rintro p q ⟨hpq, hne⟩
  exact (le_iff.mp hpq).resolve_right hne

/-- An ascending list of paths is known by its members, since nothing comes `Before` itself. -/
theorem eq_of_ascending {ps qs : List String} (hps : ps.Pairwise Before) (hqs : qs.Pairwise Before)
    (h : ∀ p, p ∈ ps ↔ p ∈ qs) : ps = qs := by
  have hnodup : ∀ {l : List String}, l.Pairwise Before → l.Nodup := by
    intro l hl
    refine hl.imp ?_
    rintro p q hpq rfl
    exact not_before_self p hpq
  refine List.Perm.eq_of_pairwise ?_ hps hqs
    ((List.perm_ext_iff_of_nodup (hnodup hps) (hnodup hqs)).mpr h)
  intro p q _ _ hpq hqp
  exact absurd hqp hpq.asymm

end CallReach.Path
