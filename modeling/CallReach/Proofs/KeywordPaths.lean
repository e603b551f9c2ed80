import CallReach.Proofs.PathSegments
import CallReach.Source.Imports

/-!
# Paths that start with keywords

In the tree of modules, `crate` leads to the root of the package, `self` stays in a module, `super`
leads to the module around it, and every other segment leads down. A called path may start with
`crate`, with any number of `super`, or with `self` and any number of `super`; what follows are
ordinary names. Such a path is resolved in the way of the tree, except where `super` follows `self`:
these keywords are taken for names of modules.

## Key results

- `anchor?_append`: what follows an anchored path stays behind it
- `foldl_enter_words`: where keywords lead in the tree of modules
- `resolvePath_of_anchored`: an anchored path stands for itself, unless its first segment is
  imported
- `resolvePath_keywords`: which paths are resolved in the way of the tree
- `resolvePath_keeps_super`: a path that is not
-/

namespace CallReach.Source

/-! ## The tree of modules -/

/-- A segment that is the name of a module, a type or a function. -/
def Ordinary (s : String) : Prop := ':' ∉ s.toList ∧ s ≠ "crate" ∧ s ≠ "self" ∧ s ≠ "super"

instance (s : String) : Decidable (Ordinary s) := inferInstanceAs (Decidable (_ ∧ _ ∧ _ ∧ _))

namespace ModulePath

variable (m : ModulePath)

/-- Goes along one segment in the tree of modules. -/
def enter (s : String) : ModulePath :=
  if s = "crate" then []
  else if s = "self" then m
  else if s = "super" then m.dropLast
  else m ++ [s]

/-- `enter` goes down along ordinary segments. -/
private theorem foldl_enter_ordinary {p : List String} (hp : ∀ s ∈ p, Ordinary s) :
    p.foldl enter m = m ++ p := by
  induction p generalizing m with
  | nil => simp
  | cons s p ih =>
    rw [List.forall_mem_cons] at hp
    obtain ⟨_, hcrate, hself, hsuper⟩ := hp.1
    have hdown : enter m s = m ++ [s] := by simp [enter, hcrate, hself, hsuper]
    rw [List.foldl_cons, hdown, ih (m ++ [s]) hp.2, List.append_assoc, List.singleton_append]

/-- `enter` goes one module up for every `super`, as far as there is one. -/
private theorem foldl_enter_supers (n : Nat) :
    (List.replicate n "super").foldl enter m = m.take (m.length - min n m.length) := by
  induction n generalizing m with
  | zero => simp
  | succ n ih =>
    have hup : enter m "super" = m.take (m.length - 1) := List.dropLast_eq_take
    rw [List.replicate_succ, List.foldl_cons, hup, ih, List.take_take, List.length_take]
    congr 1
    omega

private theorem takeWhile_super_append (front : List String) {back : List String}
    (hback : back.head? ≠ some "super") :
    (front ++ back).takeWhile (· = "super") = front.takeWhile (· = "super") := by
  induction front with
  | nil =>
    cases back with
    | nil => rfl
    | cons s back =>
      have hs : s ≠ "super" := by simpa using hback
      simp [hs]
  | cons s front ih => rw [List.cons_append, List.takeWhile_cons, List.takeWhile_cons, ih]

/-- `anchor?` leaves what follows behind the path, unless it starts with `super`. -/
theorem anchor?_append {front back : List String} (hfront : front ≠ [])
    (hback : back.head? ≠ some "super") :
    m.anchor? (front ++ back) = (m.anchor? front).map (· ++ back) := by
  obtain ⟨first, rest, rfl⟩ := List.exists_cons_of_ne_nil hfront
  have hlength : (rest.takeWhile (· = "super")).length ≤ rest.length :=
    (List.takeWhile_sublist _).length_le
  simp only [List.cons_append, anchor?, takeWhile_super_append rest hback,
    List.drop_append_of_le_length hlength]
  split
  · rfl
  · split
    · simp
    · split <;> simp

end ModulePath

/-! ## Keywords -/

/-- The keywords that a path starts with. -/
inductive Lead where
  /-- `crate` -/
  | package
  /-- `super`, and `n` more of it -/
  | above (n : Nat)
  /-- `self`, and then `n` times `super` -/
  | here (n : Nat)
  deriving DecidableEq

namespace Lead

/-- The keywords as segments. -/
def words : Lead → List String
  | .package => ["crate"]
  | .above n => List.replicate (n + 1) "super"
  | .here n => "self" :: List.replicate n "super"

/-- The keyword that comes first. -/
def first : Lead → String
  | .package => "crate"
  | .above _ => "super"
  | .here _ => "self"

/-- The module that the keywords lead to. -/
def target (m : ModulePath) : Lead → ModulePath
  | .package => []
  | .above n => m.take (m.length - min (n + 1) m.length)
  | .here n => m.take (m.length - min n m.length)

private theorem words_eq_cons (lead : Lead) : ∃ rest, lead.words = lead.first :: rest := by
  cases lead with
  | package => exact ⟨[], rfl⟩
  | above n => exact ⟨List.replicate n "super", List.replicate_succ⟩
  | here n => exact ⟨List.replicate n "super", rfl⟩

private theorem undivided_of_mem_words {lead : Lead} {s : String} (h : s ∈ lead.words) :
    ':' ∉ s.toList := by
  cases lead with
  | package =>
    cases List.mem_singleton.mp h
    decide
  | above n =>
    cases List.eq_of_mem_replicate h
    decide
  | here n =>
    rcases List.mem_cons.mp h with rfl | h
    · decide
    · cases List.eq_of_mem_replicate h
      decide

private theorem target_subset (m : ModulePath) (lead : Lead) : lead.target m ⊆ m := by
  cases lead with
  | package => exact List.nil_subset m
  | above n => exact List.take_subset _ m
  | here n => exact List.take_subset _ m

/-- `enter` along the `words` leads to the `target`. -/
theorem foldl_enter_words (m : ModulePath) (lead : Lead) :
    lead.words.foldl ModulePath.enter m = lead.target m := by
  cases lead with
  | package => rfl
  | above n => exact m.foldl_enter_supers (n + 1)
  | here n => exact m.foldl_enter_supers n

/-- `anchor?` agrees with `target`, unless `super` follows `self`. -/
private theorem anchor?_words (m : ModulePath) {lead : Lead} (h : ∀ n, lead ≠ .here (n + 1)) :
    m.anchor? lead.words = some (lead.target m) := by
  cases lead with
  | package => rfl
  | above n =>
    have hrun : (List.replicate n "super").takeWhile (· = "super") = List.replicate n "super" := by
      simp
    have hmin : m.length - min (n + 1) m.length = m.length - (n + 1) := by omega
    simp [words, List.replicate_succ, ModulePath.anchor?, hrun, ModulePath.ancestor, target, hmin]
  | here n =>
    cases n with
    | zero => simp [words, ModulePath.anchor?, target]
    | succ n => exact absurd rfl (h n)

/-- `anchor?` takes every `super` behind `self` for the name of a module. -/
private theorem anchor?_words_here (m : ModulePath) (n : Nat) :
    m.anchor? (words (.here n)) = some (m ++ List.replicate n "super") := rfl

end Lead

/-! ## Called paths -/

/-- `resolvePath` of a path that is anchored, unless its first segment is imported. -/
theorem Imports.resolvePath_of_anchored {i : Imports} {m : ModulePath} {first : String}
    {rest path : List String} (hundivided : ∀ s ∈ first :: rest, ':' ∉ s.toList)
    (hfree : i.find? first = none) (hanchor : m.anchor? (first :: rest) = some path) :
    i.resolvePath m (Text.joinSegments (first :: rest)) = path := by
  have hsegments := Text.segments_joinSegments (List.cons_ne_nil first rest) hundivided
  rw [Imports.resolvePath, hsegments]
  simp only [hfree, hanchor]

/-- `resolvePath` of a path with keywords in front: what they are anchored to, followed by the
names. -/
private theorem Lead.resolvePath_words {i : Imports} {m : ModulePath} {lead : Lead}
    {base p : List String} (hanchor : m.anchor? lead.words = some base)
    (hfree : i.find? lead.first = none) (hp : ∀ s ∈ p, Ordinary s) :
    i.resolvePath m (Text.joinSegments (lead.words ++ p)) = base ++ p := by
  -- The path is cut at its colons again, and neither keywords nor names have any.
  obtain ⟨rest, hwords⟩ := lead.words_eq_cons
  have hundivided : ∀ s ∈ lead.words ++ p, ':' ∉ s.toList := by
    rw [List.forall_mem_append]
    exact ⟨fun s hs => undivided_of_mem_words hs, fun s hs => (hp s hs).1⟩
  have hhead : p.head? ≠ some "super" := by
    intro hsuper
    exact (hp "super" (List.mem_of_mem_head? hsuper)).2.2.2 rfl
  have hne : lead.words ≠ [] := by simp [hwords]
  have hwhole : m.anchor? (lead.words ++ p) = some (base ++ p) := by
    rw [m.anchor?_append hne hhead, hanchor, Option.map_some]
  rw [hwords, List.cons_append] at hundivided hwhole ⊢
  exact Imports.resolvePath_of_anchored hundivided hfree hwhole

/-- Which paths with keywords in front are resolved in the way of the tree of modules, where the
imports do not bind the first keyword: all of them but those with `super` after `self`. There, each
`super` is left in the path behind the module that the path is in. No other segment than those of
the module and of the names appears. -/
theorem resolvePath_keywords (m : ModulePath) (i : Imports) (lead : Lead) {p : List String}
    (hp : ∀ s ∈ p, Ordinary s) (hfree : i.find? lead.first = none) :
    let resolved := i.resolvePath m (Text.joinSegments (lead.words ++ p))
    (lead.words ++ p).foldl ModulePath.enter m = lead.target m ++ p ∧
    (resolved = lead.target m ++ p ↔ ∀ n, lead ≠ .here (n + 1)) ∧
    (∀ n, lead = .here n → resolved = m ++ List.replicate n "super" ++ p) ∧
    ∀ s ∈ resolved, s ∈ m ∨ s ∈ p ∨ (s = "super" ∧ ∃ n, lead = .here (n + 1)) := by
  intro resolved
  have htree : (lead.words ++ p).foldl ModulePath.enter m = lead.target m ++ p := by
    rw [List.foldl_append, lead.foldl_enter_words, ModulePath.foldl_enter_ordinary _ hp]
  have hhere : ∀ n, lead = .here n → resolved = m ++ List.replicate n "super" ++ p := by
    rintro n rfl
    exact Lead.resolvePath_words (Lead.anchor?_words_here m n) hfree hp
  have hsame : (∀ n, lead ≠ .here (n + 1)) → resolved = lead.target m ++ p :=
    fun h => Lead.resolvePath_words (lead.anchor?_words m h) hfree hp
  refine ⟨htree, ⟨?_, hsame⟩, hhere, ?_⟩
  · -- What is left of `super` makes the path too long for the tree.
    rintro hresolved n rfl
    have hlength := congrArg List.length ((hhere (n + 1) rfl).symm.trans hresolved)
    simp only [Lead.target, List.length_append, List.length_replicate, List.length_take] at hlength
    omega
  · intro s hs
    by_cases hlead : ∃ n, lead = .here (n + 1)
    · obtain ⟨n, rfl⟩ := hlead
      rw [hhere (n + 1) rfl, List.mem_append, List.mem_append, List.mem_replicate] at hs
      rcases hs with (hm | ⟨_, hsuper⟩) | hname
      · exact .inl hm
      · exact .inr (.inr ⟨hsuper, n, rfl⟩)
      · exact .inr (.inl hname)
    · rw [hsame (not_exists.mp hlead), List.mem_append] at hs
      rcases hs with hm | hname
      · exact .inl (lead.target_subset m hm)
      · exact .inr (.inl hname)

/-- From `a::b::c`, five `super` lead to the root, where the names follow. -/
theorem resolvePath_keywords_beyond_root :
    let m : ModulePath := ["a", "b", "c"]
    (∀ s ∈ ["d", "f"], Ordinary s) ∧ ({} : Imports).find? (Lead.above 4).first = none ∧
      ({} : Imports).resolvePath m "super::super::super::super::super::d::f" = ["d", "f"] := by
  intro m
  have hp : ∀ s ∈ ["d", "f"], Ordinary s := by decide
  have hpath : Text.joinSegments ((Lead.above 4).words ++ ["d", "f"]) =
      "super::super::super::super::super::d::f" := by decide +kernel
  have hresolved := (resolvePath_keywords m {} (.above 4) hp rfl).2.1.mpr (by simp)
  rw [hpath] at hresolved
  exact ⟨hp, rfl, hresolved⟩

/-- From `a::b`, the path `super::f` leads to `a::f`, but `self::super::f` is taken for a path below
`a::b`. -/
theorem resolvePath_keeps_super :
    let m : ModulePath := ["a", "b"]
    ({} : Imports).resolvePath m "super::f" = ["a", "f"] ∧
      ["self", "super", "f"].foldl ModulePath.enter m = ["a", "f"] ∧
      ({} : Imports).resolvePath m "self::super::f" = ["a", "b", "super", "f"] := by
  decide +kernel

end CallReach.Source
