import CallReach.Proofs.IndexCorrect

/-!
# The calls of a linked program

A linked program has one function per body, and the calls of a body are found by its references,
each looked up in two tables that hold the functions of all files. Said without the tables, a
reference names the bodies that it may mean, in the order of the files. So no call leads out of the
program, to a closure, or from a name to itself, in whatever way the names of the files collide.

## Key results

- `resolve_build`: what a reference names, by a search through all bodies
- `link_functions_eq`, `link_calls_eq`: the functions and calls of a linked program, body by body
- `exists_of_mem_link_calls`: where a call comes from
- `link_calls_closed`: which functions and calls there are, and that no call leads elsewhere
-/

namespace CallReach.Source

/-! ## What a reference names -/

/-- The bodies of several files, each with its file, in order. -/
def placedBodies (units : List SourceUnit) : List (SourceUnit × Body) :=
  units.flatMap fun u => u.bodies.map fun b => (u, b)

/-- The bodies that a reference in a file may mean, found by a search through all files. A path
means the functions that it names as resolved, or else those that it names as written. -/
def meant (units : List SourceUnit) (u : SourceUnit) : Reference → List Body
  | .path text =>
    let named (path : String) := (units.flatMap (·.bodies)).filter (·.Answers path)
    let resolved := named (Text.joinSegments (u.imports.resolvePath u.module text))
    if resolved.isEmpty then named text else resolved
  | .method name => (units.flatMap (·.bodies)).filter (·.AnswersMethod name)

/-- `resolve` gives the paths of the bodies in `meant`, in order and as often. -/
theorem FunctionIndex.resolve_build (units : List SourceUnit) (u : SourceUnit) (r : Reference) :
    (build units).resolve u r = (meant units u r).map (·.path) := by
  cases r with
  | path text =>
    simp only [resolve, meant, lookupPath_build]
    -- The look-up as written is the second one in both.
    cases hfound : (units.flatMap (·.bodies)).filter
        (·.Answers (Text.joinSegments (u.imports.resolvePath u.module text))) with
    | nil => simp
    | cons b bs => simp
  | method name => exact lookupMethod_build units name

/-- `meant` holds functions, never closures. -/
private theorem closure_of_mem_meant {units : List SourceUnit} {u : SourceUnit} {r : Reference}
    {b : Body} (h : b ∈ meant units u r) : b ∈ units.flatMap (·.bodies) ∧ b.closure = false := by
  have hnamed : ∀ path, b ∈ (units.flatMap (·.bodies)).filter (·.Answers path) →
      b ∈ units.flatMap (·.bodies) ∧ b.closure = false := by
    intro path hb
    obtain ⟨hmem, hanswers⟩ := List.mem_filter.mp hb
    exact ⟨hmem, (of_decide_eq_true hanswers).1⟩
  cases r with
  | path text =>
    -- Both the resolved path and the path as it is written are looked up among functions.
    simp only [meant] at h
    split at h
    · exact hnamed _ h
    · exact hnamed _ h
  | method name =>
    obtain ⟨hmem, hanswers⟩ := List.mem_filter.mp h
    exact ⟨hmem, (of_decide_eq_true hanswers).1⟩

/-! ## Functions and calls -/

/-- The calls of one body: for each reference in order, those to what it names, except for the body
itself. -/
def callsOf (package : String) (index : FunctionIndex) (u : SourceUnit) (b : Body) : List Call :=
  b.references.toList.flatMap fun r =>
    ((index.resolve u r).filter (· ≠ b.path)).map fun target =>
      ⟨packageQualified package b.path, packageQualified package target⟩

variable (package : String) (units : List SourceUnit)

/-- `link` gives one function for each body, in the order of the files and of the bodies in them. -/
theorem link_functions_eq :
    (link package units).functions = (placedBodies units).map fun p =>
      { name := packageQualified package p.2.path, file := p.1.file, line := p.2.line } := by
  simp only [link, placedBodies, List.map_flatMap, List.map_map, Function.comp_def]

/-- `link` gives the calls of each body, in the order of the files and of the bodies in them. -/
theorem link_calls_eq :
    (link package units).calls =
      (placedBodies units).flatMap fun p => callsOf package (.build units) p.1 p.2 := by
  simp only [link, placedBodies, callsOf, List.flatMap_assoc, List.flatMap_map]

variable {package units}

private theorem mem_placedBodies_iff {u : SourceUnit} {b : Body} :
    (u, b) ∈ placedBodies units ↔ u ∈ units ∧ b ∈ u.bodies := by
  simp [placedBodies]

private theorem packageQualified_mem_names {b : Body} (hb : b ∈ units.flatMap (·.bodies)) :
    packageQualified package b.path ∈ (link package units).functions.map (·.name) := by
  obtain ⟨u, hu, hub⟩ := List.mem_flatMap.mp hb
  rw [link_names, List.mem_map]
  exact ⟨b.path, List.mem_flatMap.mpr ⟨u, hu, List.mem_map_of_mem hub⟩, rfl⟩

/-- A call of `link` comes from a reference of a body to a function that the reference means and
that has another path. -/
theorem exists_of_mem_link_calls {e : Call} (he : e ∈ (link package units).calls) :
    ∃ u ∈ units, ∃ b ∈ u.bodies, ∃ r ∈ b.references, ∃ target ∈ meant units u r,
      target.path ≠ b.path ∧
      e = ⟨packageQualified package b.path, packageQualified package target.path⟩ := by
  rw [link_calls_eq, List.mem_flatMap] at he
  obtain ⟨⟨u, b⟩, hplaced, he⟩ := he
  obtain ⟨hu, hb⟩ := mem_placedBodies_iff.mp hplaced
  simp only [callsOf, FunctionIndex.resolve_build, List.mem_flatMap, List.mem_map, List.mem_filter,
    Std.TreeSet.mem_toList, decide_eq_true_eq] at he
  obtain ⟨r, hr, _, ⟨⟨target, htarget, rfl⟩, hne⟩, rfl⟩ := he
  exact ⟨u, hu, b, hb, r, hr, target, htarget, hne, rfl⟩

/-- `link` gives one function for each body, in the order of the files and of the bodies in them.
For each body and each of its references in ascending order, it gives the calls to what the
reference names, except for the body itself, and a reference names what a search through all bodies
finds. So every call is between functions of the program, it leads to a function that is no closure,
and it does not lead back to the name that it comes from. -/
theorem link_calls_closed (package : String) (units : List SourceUnit) :
    let p := link package units
    let index := FunctionIndex.build units
    let name (b : Body) := packageQualified package b.path
    (p.functions = (placedBodies units).map fun s =>
      { name := name s.2, file := s.1.file, line := s.2.line }) ∧
    (p.calls = (placedBodies units).flatMap fun s => s.2.references.toList.flatMap fun r =>
      ((index.resolve s.1 r).filter (· ≠ s.2.path)).map fun target =>
        ⟨name s.2, packageQualified package target⟩) ∧
    (∀ b : Body, b.references.toList.Pairwise fun r r' => compare r r' = .lt) ∧
    (∀ u r, index.resolve u r = (meant units u r).map (·.path)) ∧
    ∀ e ∈ p.calls, e.caller ∈ p.functions.map (·.name) ∧ e.callee ∈ p.functions.map (·.name) ∧
      (∃ b ∈ units.flatMap (·.bodies), b.closure = false ∧ e.callee = name b) ∧
        e.caller ≠ e.callee := by
  intro p index name
  refine ⟨link_functions_eq package units, link_calls_eq package units, ?_,
    FunctionIndex.resolve_build units, ?_⟩
  · intro b
    exact Std.TreeSet.ordered_toList
  · intro e he
    obtain ⟨u, hu, b, hb, r, -, target, htarget, hne, rfl⟩ := exists_of_mem_link_calls he
    obtain ⟨hmem, hfunction⟩ := closure_of_mem_meant htarget
    have hcaller : b ∈ units.flatMap (·.bodies) := List.mem_flatMap.mpr ⟨u, hu, hb⟩
    -- The filter compares paths, which the name of the package in front does not change.
    have hapart : name b ≠ name target :=
      fun heq => hne (packageQualified_injective package heq).symm
    exact ⟨packageQualified_mem_names hcaller, packageQualified_mem_names hmem,
      ⟨target, hmem, hfunction, rfl⟩, hapart⟩

/-- The function `a::f` refers to itself, to `g` in another file and to a method, and the closure in
it refers back to it. The method refers to itself. Three calls are linked, and the one from the
closure leads to a function. -/
theorem link_calls_closed_of_closure :
    let a : SourceUnit := ⟨"/work/src/a.rs", ["a"], {},
      [⟨"a::f", 0, false, false, {.path "g", .path "f", .method "run"}⟩,
        ⟨"a::f$1", 1, false, true, {.path "a::f"}⟩]⟩
    let b : SourceUnit := ⟨"/work/src/b.rs", ["b"], {},
      [⟨"b::g", 0, false, false, {}⟩, ⟨"b::T::run", 2, true, false, {.method "run"}⟩]⟩
    let p := link "app" [a, b]
    p.calls = [⟨"app::a::f", "app::b::g"⟩, ⟨"app::a::f", "app::b::T::run"⟩,
      ⟨"app::a::f$1", "app::a::f"⟩] ∧
      ("app::a::f$1" ∈ p.functions.map (·.name) ∧ "app::a::f" ∈ p.functions.map (·.name)) ∧
      ∃ target ∈ [a, b].flatMap (·.bodies), target.closure = false ∧
        "app::a::f" = packageQualified "app" target.path := by
  intro a b p
  have hcalls : p.calls =
      [⟨"app::a::f", "app::b::g"⟩, ⟨"app::a::f", "app::b::T::run"⟩,
        ⟨"app::a::f$1", "app::a::f"⟩] := by
    decide +kernel
  have hmem : ⟨"app::a::f$1", "app::a::f"⟩ ∈ p.calls := by simp [hcalls]
  obtain ⟨_, _, _, _, hclosed⟩ := link_calls_closed "app" [a, b]
  obtain ⟨hcaller, hcallee, htarget, _⟩ := hclosed _ hmem
  exact ⟨hcalls, ⟨hcaller, hcallee⟩, htarget⟩

end CallReach.Source
