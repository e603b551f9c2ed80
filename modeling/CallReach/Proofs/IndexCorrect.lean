import CallReach.Proofs.BodyWalk
import CallReach.Proofs.PathSegments
import CallReach.Source.Index
import Mathlib.Data.List.Nodup

/-!
# What the index finds

The index holds a function under every end of its path, as text. Said by segments, a path finds the
functions whose own paths end with its segments, in the order in which they were added. From this
come the functions that a reference may name, and the calls of a linked program.

## Key results

- `lookupPath_build`, `lookupMethod_build`: the functions that a path or a method name finds, in
  order
- `mem_resolve_path_iff`: a path is looked up as resolved, and as written if that finds nothing
- `build_finds_ends`: both tables, and that a function is found by its whole path
- `mem_link_calls_iff`: the calls of a linked program
-/

namespace CallReach.Source

/-! ## Looking up a path -/

/-- A path may mean the body: it is that of a function whose path ends with the same segments. Where
the function belongs to an `impl` or `trait` block, its last segment alone does not mean it. -/
def Body.Answers (b : Body) (path : String) : Prop :=
  b.closure = false ∧ Text.segments path <:+ Text.segments b.path ∧
    (b.associated = true → 2 ≤ (Text.segments path).length)

instance (b : Body) (path : String) : Decidable (b.Answers path) :=
  inferInstanceAs (Decidable (_ ∧ _ ∧ _))

namespace FunctionIndex

variable {least : Nat} {ss ending : List String}

private theorem mem_endsFrom_iff :
    ending ∈ endsFrom least ss ↔ ending <:+ ss ∧ ending ≠ [] ∧ least ≤ ending.length := by
  induction ss with
  | nil =>
    rw [endsFrom, List.suffix_nil]
    grind
  | cons s ss ih =>
    -- The whole list is an end of itself, and the others are ends of the tail.
    rw [endsFrom, List.mem_append, ih, List.suffix_cons_iff]
    split
    · rename_i hleast
      rw [List.mem_singleton]
      grind
    · rename_i hleast
      grind

private theorem nodup_endsFrom (least : Nat) (ss : List String) : (endsFrom least ss).Nodup := by
  induction ss with
  | nil => exact List.nodup_nil
  | cons s ss ih =>
    rw [endsFrom]
    split
    · refine List.nodup_append'.mpr ⟨ih, List.nodup_singleton _, ?_⟩
      intro ending hending hwhole
      have hlength := (mem_endsFrom_iff.mp hending).1.length_le
      rw [List.mem_singleton.mp hwhole, List.length_cons] at hlength
      omega
    · rwa [List.append_nil]

/-- Of the ends of a path, `text` is written by the one with its segments. Two ends are never
written alike, because `segments` reads them back. -/
private theorem filter_endsFrom (least : Nat) (path text : String) :
    (endsFrom least (Text.segments path)).filter (Text.joinSegments · = text) =
      if Text.segments text <:+ Text.segments path ∧ least ≤ (Text.segments text).length
      then [Text.segments text] else [] := by
  -- Segments of one path can be told from the text that joins them.
  have hsame : ∀ ending ∈ endsFrom least (Text.segments path),
      decide (Text.joinSegments ending = text) = decide (ending = Text.segments text) := by
    intro ending hending
    obtain ⟨hsuffix, hne, _⟩ := mem_endsFrom_iff.mp hending
    rw [decide_eq_decide]
    constructor
    · rintro rfl
      exact (Text.segments_joinSegments_of_isSuffix hne hsuffix).symm
    · rintro rfl
      exact Text.joinSegments_segments text
  rw [List.filter_congr hsame, List.filter_eq]
  have hmem : Text.segments text ∈ endsFrom least (Text.segments path) ↔
      Text.segments text <:+ Text.segments path ∧ least ≤ (Text.segments text).length := by
    rw [mem_endsFrom_iff]
    exact and_congr_right fun _ => and_iff_right (Text.segments_ne_nil text)
  split
  · rename_i h
    rw [List.count_eq_one_of_mem (nodup_endsFrom least _) (hmem.mpr h)]
    rfl
  · rename_i h
    rw [List.count_eq_zero_of_not_mem (fun hin => h (hmem.mp hin))]
    rfl

/-- To `append` one path under several keys adds it as often as the key is among them. -/
private theorem foldl_append_getD (endings : List (List String)) (path text : String)
    (t : Std.TreeMap String (List String)) :
    (endings.foldl (fun t ending => append t (Text.joinSegments ending) path) t)[text]?.getD [] =
      t[text]?.getD [] ++ (endings.filter (Text.joinSegments · = text)).map fun _ => path := by
  induction endings generalizing t with
  | nil => simp
  | cons ending endings ih =>
    rw [List.foldl_cons, ih, append, Std.TreeMap.getElem?_insert, List.filter_cons]
    simp only [Std.LawfulEqOrd.compare_eq_iff_eq]
    by_cases htext : Text.joinSegments ending = text
    · subst htext
      simp
    · simp [htext]

/-- After `add`, a body is found under the paths that may mean it. -/
private theorem lookupPath_add (index : FunctionIndex) (b : Body) (text : String) :
    (index.add b).lookupPath text =
      index.lookupPath text ++ if b.Answers text then [b.path] else [] := by
  unfold add
  split
  · rename_i hclosure
    have hnot : ¬ b.Answers text := by
      rintro ⟨hfunction, _⟩
      rw [hclosure] at hfunction
      cases hfunction
    rw [if_neg hnot, List.append_nil]
  · rename_i hclosure
    -- An associated function is listed from two segments on. There is always one segment, so the
    -- other bound asks for nothing.
    have hleast : (if b.associated = true then 2 else 1) ≤ (Text.segments text).length ↔
        (b.associated = true → 2 ≤ (Text.segments text).length) := by
      have hpos := List.length_pos_of_ne_nil (Text.segments_ne_nil text)
      split <;> grind
    have hanswers : b.Answers text ↔ Text.segments text <:+ Text.segments b.path ∧
        (if b.associated = true then 2 else 1) ≤ (Text.segments text).length := by
      rw [Body.Answers, hleast]
      simp [hclosure]
    dsimp only [lookupPath]
    rw [foldl_append_getD, filter_endsFrom]
    simp only [← hanswers]
    split <;> rfl

private theorem lookupPath_foldl_add (bodies : List Body) (index : FunctionIndex) (text : String) :
    (bodies.foldl add index).lookupPath text =
      index.lookupPath text ++ (bodies.filter (·.Answers text)).map (·.path) := by
  induction bodies generalizing index with
  | nil => simp
  | cons b bodies ih =>
    rw [List.foldl_cons, ih, lookupPath_add, List.filter_cons, List.append_assoc]
    by_cases hanswers : b.Answers text
    · simp [hanswers]
    · simp [hanswers]

/-- `lookupPath` finds the functions that a path may mean, in the order of the files and of the
bodies in them. -/
theorem lookupPath_build (units : List SourceUnit) (text : String) :
    (build units).lookupPath text =
      ((units.flatMap (·.bodies)).filter (·.Answers text)).map (·.path) := by
  rw [build, lookupPath_foldl_add]
  simp [lookupPath]

end FunctionIndex

/-! ## Looking up a method -/

/-- A method name may mean the body: it is that of a function of an `impl` or `trait` block, and the
name is the last segment of its path. -/
def Body.AnswersMethod (b : Body) (name : String) : Prop :=
  b.closure = false ∧ b.associated = true ∧ (Text.segments b.path).getLast? = some name

instance (b : Body) (name : String) : Decidable (b.AnswersMethod name) :=
  inferInstanceAs (Decidable (_ ∧ _ ∧ _))

namespace FunctionIndex

/-- After `add`, a body is found under the method name that may mean it. -/
private theorem lookupMethod_add (index : FunctionIndex) (b : Body) (name : String) :
    (index.add b).lookupMethod name =
      index.lookupMethod name ++ if b.AnswersMethod name then [b.path] else [] := by
  by_cases hanswers : b.AnswersMethod name
  · rw [if_pos hanswers]
    obtain ⟨hclosure, hassociated, hlast⟩ := hanswers
    simp [add, lookupMethod, append, hclosure, hassociated, hlast]
  · rw [if_neg hanswers, List.append_nil]
    unfold add
    split
    · rfl
    · rename_i hclosure
      dsimp only [lookupMethod]
      split
      · rename_i last hassociated hlast
        -- The body is added under its own last segment, which is another name.
        have hname : last ≠ name := by
          rintro rfl
          exact hanswers ⟨by simpa using hclosure, hassociated, hlast⟩
        simp [append, Std.TreeMap.getElem?_insert, hname]
      · rfl

private theorem lookupMethod_foldl_add (bodies : List Body) (index : FunctionIndex)
    (name : String) :
    (bodies.foldl add index).lookupMethod name =
      index.lookupMethod name ++ (bodies.filter (·.AnswersMethod name)).map (·.path) := by
  induction bodies generalizing index with
  | nil => simp
  | cons b bodies ih =>
    rw [List.foldl_cons, ih, lookupMethod_add, List.filter_cons, List.append_assoc]
    by_cases hanswers : b.AnswersMethod name
    · simp [hanswers]
    · simp [hanswers]

/-- `lookupMethod` finds the functions that a method name may mean, in the order of the files and of
the bodies in them. -/
theorem lookupMethod_build (units : List SourceUnit) (name : String) :
    (build units).lookupMethod name =
      ((units.flatMap (·.bodies)).filter (·.AnswersMethod name)).map (·.path) := by
  rw [build, lookupMethod_foldl_add]
  simp [lookupMethod]

end FunctionIndex

/-! ## Resolving a reference -/

/-- A path may mean the function named `target`. -/
def Answered (units : List SourceUnit) (path target : String) : Prop :=
  ∃ b ∈ units.flatMap (·.bodies), b.Answers path ∧ b.path = target

/-- A path may mean none of the functions. -/
def Unanswered (units : List SourceUnit) (path : String) : Prop :=
  ∀ b ∈ units.flatMap (·.bodies), ¬ b.Answers path

namespace FunctionIndex

variable {units : List SourceUnit}

private theorem mem_lookupPath_build_iff {path target : String} :
    target ∈ (build units).lookupPath path ↔ Answered units path target := by
  rw [lookupPath_build, List.mem_map]
  simp only [List.mem_filter, decide_eq_true_eq, and_assoc]
  rfl

private theorem lookupPath_build_eq_nil_iff {path : String} :
    (build units).lookupPath path = [] ↔ Unanswered units path := by
  rw [lookupPath_build, List.map_eq_nil_iff, List.filter_eq_nil_iff]
  simp only [decide_eq_true_eq]
  rfl

/-- `resolve` gives what a path may mean as resolved. Only if there is no such function, it gives
what the path may mean as written. -/
theorem mem_resolve_path_iff {u : SourceUnit} {text target : String} :
    target ∈ (build units).resolve u (.path text) ↔
      Answered units (Text.joinSegments (u.imports.resolvePath u.module text)) target ∨
        (Unanswered units (Text.joinSegments (u.imports.resolvePath u.module text)) ∧
          Answered units text target) := by
  rw [← mem_lookupPath_build_iff, ← mem_lookupPath_build_iff, ← lookupPath_build_eq_nil_iff]
  unfold resolve
  dsimp only
  split
  · rename_i hnil
    simp [hnil]
  · rename_i hne
    simp only [iff_self_or, and_imp]
    intro hnil
    exact absurd hnil hne

/-- `resolve` does not look a path up as written if it may mean something as resolved. -/
private theorem resolve_path_of_answered {u : SourceUnit} {text target : String}
    (h : Answered units (Text.joinSegments (u.imports.resolvePath u.module text)) target) :
    (build units).resolve u (.path text) =
      (build units).lookupPath (Text.joinSegments (u.imports.resolvePath u.module text)) := by
  unfold resolve
  dsimp only
  split
  · rename_i hnil
    rw [← mem_lookupPath_build_iff, hnil] at h
    cases h
  · rfl

end FunctionIndex

/-- A function `Answers` to its own path. One of an `impl` or `trait` block needs a second segment
for that. -/
private theorem Body.answers_path_iff {b : Body} :
    b.Answers b.path ↔ b.closure = false ∧
      (b.associated = false ∨ 2 ≤ (Text.segments b.path).length) := by
  cases hassociated : b.associated with
  | false => simp [Body.Answers, hassociated]
  | true => simp [Body.Answers, hassociated]

/-- **`FunctionIndex` finds functions by the ends of their paths.** A path finds the functions whose
paths end with its segments, and a method name those of `impl` and `trait` blocks that have it as
last segment, both in the order of the files and of the bodies in them and as often as they are
there. So a path that is resolved to the whole path of a function names this function, and nothing
that it might mean as written. -/
theorem FunctionIndex.build_finds_ends (units : List SourceUnit) :
    let bodies := units.flatMap (·.bodies)
    let index := FunctionIndex.build units
    (∀ path, index.lookupPath path = (bodies.filter fun b => b.closure = false ∧
      Text.segments path <:+ Text.segments b.path ∧
        (b.associated = true → 2 ≤ (Text.segments path).length)).map (·.path)) ∧
    (∀ name, index.lookupMethod name = (bodies.filter fun b => b.closure = false ∧
      b.associated = true ∧ (Text.segments b.path).getLast? = some name).map (·.path)) ∧
    ∀ (u : SourceUnit) (text : String), ∀ b ∈ bodies, b.closure = false →
      b.associated = false ∨ 2 ≤ (Text.segments b.path).length →
      Text.joinSegments (u.imports.resolvePath u.module text) = b.path →
        index.resolve u (.path text) = index.lookupPath b.path ∧
        b.path ∈ index.resolve u (.path text) := by
  intro bodies index
  refine ⟨lookupPath_build units, lookupMethod_build units, ?_⟩
  intro u text b hb hclosure hsegments hresolved
  -- The function itself answers its whole path, so nothing else is looked for.
  have hanswered : Answered units (Text.joinSegments (u.imports.resolvePath u.module text))
      b.path := by
    rw [hresolved]
    exact ⟨b, hb, Body.answers_path_iff.mpr ⟨hclosure, hsegments⟩, rfl⟩
  refine ⟨?_, mem_resolve_path_iff.mpr (.inl hanswered)⟩
  rw [resolve_path_of_answered hanswered, hresolved]

/-- Two files declare `a::f`, one as a function and one as an associated function, and a third file
has `f` at the top and in a block. As resolved from module `a`, `f` is `a::f` and names both
declarations of it, in the order of the files, and not the function that it would mean as
written. -/
theorem FunctionIndex.build_finds_ends_of_repeated :
    let lib : SourceUnit :=
      ⟨"/src/lib.rs", [], {}, [⟨"f", 0, false, false, {}⟩, ⟨"T::f", 1, true, false, {}⟩]⟩
    let a : SourceUnit :=
      ⟨"/src/a.rs", ["a"], {}, [⟨"a::f", 0, false, false, {}⟩, ⟨"a::f$1", 1, false, true, {}⟩]⟩
    let a' : SourceUnit := ⟨"/src/a/mod.rs", ["a"], {}, [⟨"a::f", 4, true, false, {}⟩]⟩
    let index := FunctionIndex.build [lib, a, a']
    index.lookupPath "f" = ["f", "a::f"] ∧ index.lookupPath "T::f" = ["T::f"] ∧
      index.lookupMethod "f" = ["T::f", "a::f"] ∧ index.resolve a (.path "f") = ["a::f", "a::f"] ∧
      "a::f" ∈ index.resolve a (.path "f") := by
  intro lib a a' index
  obtain ⟨hpath, hmethod, hresolve⟩ := FunctionIndex.build_finds_ends [lib, a, a']
  -- In `a`, the name `f` is resolved to the path that two functions share.
  have hwhole := hresolve a "f" ⟨"a::f", 4, true, false, {}⟩ (by simp [lib, a, a']) rfl
    (by decide +kernel) (by decide +kernel)
  refine ⟨?_, ?_, ?_, ?_, hwhole.2⟩
  · rw [hpath]
    decide +kernel
  · rw [hpath]
    decide +kernel
  · rw [hmethod]
    decide +kernel
  · rw [hwhole.1, hpath]
    decide +kernel

/-! ## References of a body -/

namespace Reference

@[simp] theorem compare_path_path (s t : String) : compare (path s) (path t) = compare s t := by
  simp [compare, instOrdReference.ord]

@[simp] theorem compare_method_method (s t : String) :
    compare (method s) (method t) = compare s t := by
  simp [compare, instOrdReference.ord]

/-- Paths come before methods. -/
@[simp] theorem compare_path_method (s t : String) : compare (path s) (method t) = .lt := rfl

@[simp] theorem compare_method_path (s t : String) : compare (method s) (path t) = .gt := rfl

instance : Std.LawfulEqOrd Reference where
  compare_self {a} := by cases a <;> simp
  eq_of_compare {a b} h := by
    cases a <;> cases b <;> simp_all

instance : Std.TransOrd Reference where
  eq_swap {a b} := by
    cases a <;> cases b <;> simp [← Std.OrientedOrd.eq_swap]
  isLE_trans {a b c} hab hbc := by
    cases a <;> cases b <;> cases c <;> simp_all
    all_goals exact Std.TransOrd.isLE_trans hab hbc

end Reference

/-- `refer` adds references to those that a body has. -/
theorem Body.mem_refer_references_iff (rs : List Reference) (b : Body) {r : Reference} :
    r ∈ (b.refer rs).references ↔ r ∈ rs ∨ r ∈ b.references := by
  induction rs generalizing b with
  | nil => simp [Body.refer]
  | cons first rs ih =>
    have hstep : b.refer (first :: rs) = (b.refer [first]).refer rs := b.refer_append [first] rs
    rw [hstep, ih, List.mem_cons]
    simp only [Body.refer, List.foldl_cons, List.foldl_nil, Std.TreeSet.mem_insert,
      Std.LawfulEqOrd.compare_eq_iff_eq]
    grind

/-! ## Linking -/

/-- `packageQualified` keeps different paths apart. -/
theorem packageQualified_injective (package : String) :
    Function.Injective (packageQualified package) := by
  intro a b h
  rw [packageQualified, packageQualified, String.append_right_inj] at h
  exact h

/-- The names of `link` are the paths of the bodies, each with the package. -/
theorem link_names (package : String) (units : List SourceUnit) :
    (link package units).functions.map (·.name) =
      (units.flatMap fun u => u.bodies.map (·.path)).map (packageQualified package) := by
  simp only [link, List.map_flatMap, List.map_map, Function.comp_def]

/-- `link` gives a call for what a reference of a body names, except for the body itself. -/
theorem mem_link_calls_iff (package : String) (units : List SourceUnit) {caller target : String} :
    ⟨packageQualified package caller, packageQualified package target⟩ ∈
      (link package units).calls ↔
      target ≠ caller ∧ ∃ u ∈ units, ∃ b ∈ u.bodies, b.path = caller ∧ ∃ r ∈ b.references,
        target ∈ (FunctionIndex.build units).resolve u r := by
  have hinj := packageQualified_injective package
  simp only [link, List.mem_flatMap, List.mem_map, List.mem_filter, Std.TreeSet.mem_toList,
    Call.mk.injEq, decide_eq_true_eq]
  constructor
  · rintro ⟨u, hu, b, hb, r, hr, t, ⟨ht, hne⟩, hcaller, htarget⟩
    cases hinj hcaller
    cases hinj htarget
    exact ⟨hne, u, hu, b, hb, rfl, r, hr, ht⟩
  · rintro ⟨hne, u, hu, b, hb, rfl, r, hr, ht⟩
    exact ⟨u, hu, b, hb, r, hr, target, ⟨ht, hne⟩, rfl, rfl⟩

end CallReach.Source
