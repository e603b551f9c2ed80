import CallReach.Proofs.ClosureLinking

/-!
# What becomes of the functions of a program

The restriction of a program to a module drops a function because its place is not known, because it
is outside of the module, because its file is generated, or because a retained function before it
has the same name. Names may be repeated with different files, so that one occurrence of a name is
dropped and another one is kept. Here every occurrence gets its fate from those before it, and the
numbers of the restriction count the fates. To restrict what was retained once more drops nothing.

## Key results

- `Filtering.ofFate_addFunction`: one more function raises the number of its own fate
- `counts_ofFate`: the numbers count the fates
- `Lists.ofProgram_nodes`, `Lists.ofProgram_calls`, `Lists.counts_eq`: a module that is restricted
  again
- `ofProgram_accounts_for_all`: what a module holds, and how its numbers add up
-/

namespace CallReach

/-! ## Fates -/

/-- What becomes of one function of a program. -/
inductive Fate where
  | kept
  | duplicate
  | unresolved
  | outsideModule
  | generated
  deriving DecidableEq, Repr

/-- What becomes of `f` when the functions `before` it have been taken. -/
def Function.fate (c : Settings) (before : List Function) (f : Function) : Fate :=
  match f.retention c with
  | .unresolved => .unresolved
  | .outsideModule => .outsideModule
  | .generated => .generated
  | .retained =>
    if before.any fun g => g.name = f.name && g.retention c = .retained then .duplicate else .kept

/-- What becomes of the functions of a list that come after those in `before`, in order. -/
def fatesAfter (c : Settings) (before : List Function) : List Function → List Fate
  | [] => []
  | f :: fs => f.fate c before :: fatesAfter c (before ++ [f]) fs

/-- What becomes of the functions of a program, in order. -/
def Program.fates (c : Settings) (p : Program) : List Fate := fatesAfter c [] p.functions

/-- The number that tells how many functions had a fate. -/
def FilterCounts.ofFate (n : FilterCounts) : Fate → Nat
  | .kept => n.retainedFunctions
  | .duplicate => n.duplicates
  | .unresolved => n.unresolved
  | .outsideModule => n.outsideModule
  | .generated => n.generated

private theorem length_fatesAfter (c : Settings) (before fs : List Function) :
    (fatesAfter c before fs).length = fs.length := by
  induction fs generalizing before with
  | nil => rfl
  | cons f fs ih => rw [fatesAfter, List.length_cons, List.length_cons, ih]

/-- There are no other fates than the five. -/
private theorem length_eq_count_fates (fates : List Fate) :
    fates.length = fates.count .kept + fates.count .unresolved + fates.count .outsideModule +
      fates.count .generated + fates.count .duplicate := by
  induction fates with
  | nil => rfl
  | cons fate fates ih =>
    simp only [List.length_cons, List.count_cons]
    cases fate <;> simp <;> omega

/-! ## Numbers of a restriction -/

namespace Filtering

/-- How many functions have had a fate so far. -/
def ofFate (s : Filtering) : Fate → Nat
  | .kept => s.module.nodes.size
  | .duplicate => s.counts.duplicates
  | .unresolved => s.counts.unresolved
  | .outsideModule => s.counts.outsideModule
  | .generated => s.counts.generated

variable {c : Settings} {s : Filtering}

/-- The names in `s` are those of the retained functions in `before`. -/
def Knows (c : Settings) (s : Filtering) (before : List Function) : Prop :=
  ∀ name, s.module.contains name = before.any fun g => g.name = name && g.retention c = .retained

/-- `addFunction` knows one function more. -/
theorem Knows.addFunction {before : List Function} (h : s.Knows c before) (f : Function) :
    (s.addFunction c f).Knows c (before ++ [f]) := by
  intro name
  have hname : (s.addFunction c f).module.contains name =
      ((s.addFunction c f).module.nodes[name]?).isSome :=
    Std.TreeMap.contains_eq_isSome_getElem?
  have hbefore : (s.module.nodes[name]?).isSome = s.module.contains name :=
    Std.TreeMap.contains_eq_isSome_getElem?.symm
  -- What is known afterwards was known before, or is this function if it is retained.
  rw [hname, addFunction_getElem?, Option.isSome_or, hbefore, h name, List.any_append]
  by_cases hf : f.name = name ∧ f.retention c = .retained
  · simp [hf]
  · have hskip : (decide (f.name = name) && decide (f.retention c = .retained)) = false := by
      simpa using hf
    simp [hf, hskip]

/-- `addFunction` raises the number of the function's own fate by one, and no other. -/
theorem ofFate_addFunction {before : List Function} (h : s.Knows c before) (f : Function)
    (fate : Fate) :
    (s.addFunction c f).ofFate fate = s.ofFate fate + if f.fate c before = fate then 1 else 0 := by
  unfold Filtering.addFunction Function.fate
  cases f.retention c with
  | retained =>
    dsimp only
    -- Whether the name is known decides between `kept` and `duplicate`, on both sides.
    rw [← h f.name]
    by_cases hknown : f.name ∈ s.module.nodes
    · cases fate <;> simp [Module.contains, hknown, ofFate]
    · cases fate <;> simp [Module.contains, hknown, ofFate, Std.TreeMap.size_insert]
  | _ => cases fate <;> simp [ofFate]

/-- After some functions, `ofFate` counts their fates. -/
private theorem ofFate_foldl_addFunction (fs : List Function) {before : List Function}
    (h : s.Knows c before) (fate : Fate) :
    (fs.foldl (addFunction c) s).ofFate fate =
      s.ofFate fate + (fatesAfter c before fs).count fate := by
  induction fs generalizing s before with
  | nil => rfl
  | cons f fs ih =>
    rw [List.foldl_cons, ih (h.addFunction f), ofFate_addFunction h, fatesAfter, List.count_cons]
    simp only [beq_iff_eq]
    omega

end Filtering

namespace Module

/-- The numbers of `counts` count the fates of the functions. -/
theorem counts_ofFate (c : Settings) (p : Program) (fate : Fate) :
    (counts c p).ofFate fate = (p.fates c).count fate := by
  have hstart : (Filtering.start p).Knows c [] := fun name => Std.TreeMap.contains_emptyc
  have hloop := Filtering.ofFate_foldl_addFunction p.functions hstart fate
  have hnone : (Filtering.start p).ofFate fate = 0 := by cases fate <;> rfl
  let s := p.functions.foldl (Filtering.addFunction c) (Filtering.start p)
  obtain ⟨hnodes, hcounts⟩ := Filtering.foldl_addCall_nodes (s := s) p.calls
  -- The calls change none of these numbers.
  have hcalls : (counts c p).ofFate fate = s.ofFate fate := by
    cases fate with
    | kept => exact congrArg Std.TreeMap.size hnodes
    | _ =>
      simp only [Filtering.ofFate, ← hcounts]
      rfl
  rw [hcalls, Program.fates, hloop, hnone, Nat.zero_add]

/-- Every function of a program is in one of the numbers. -/
private theorem totalFunctions_eq (c : Settings) (p : Program) :
    (counts c p).totalFunctions = (counts c p).retainedFunctions + (counts c p).unresolved +
      (counts c p).outsideModule + (counts c p).generated + (counts c p).duplicates := by
  have hlength : (p.fates c).length = p.functions.length := length_fatesAfter c [] p.functions
  have htotal := length_eq_count_fates (p.fates c)
  simp only [← counts_ofFate, hlength] at htotal
  rw [counts_eq] at htotal ⊢
  exact htotal

private theorem retainedCalls_le (c : Settings) (p : Program) :
    (counts c p).retainedCalls ≤ (counts c p).totalCalls := by
  let s := p.functions.foldl (Filtering.addFunction c) (Filtering.start p)
  have hle := Filtering.size_foldl_addCall_le (s := s) p.calls
  have hnone : s.module.calls = ∅ := Filtering.foldl_addFunction_calls p.functions
  rw [hnone, Std.TreeSet.size_emptyc, Nat.zero_add] at hle
  rw [counts_eq]
  exact hle

/-! ## To restrict once more -/

/-- `q` has the functions and calls of the module `m`, each once and in any order. -/
structure Lists (m : Module) (q : Program) : Prop where
  functions : q.functions.Perm m.nodes.values
  calls : q.calls.Perm m.calls.toList

namespace Lists

variable {c : Settings} {p q : Program}

/-- What `ofProgram` holds is retained. -/
private theorem retention_eq (h : (ofProgram c p).Lists q) {f : Function} (hf : f ∈ q.functions) :
    f.retention c = .retained := by
  have hrecord := (mem_values_iff (named_ofProgram c p)).mp (h.functions.mem_iff.mp hf)
  rw [ofProgram_getElem?] at hrecord
  exact (Program.retained?_eq_some hrecord).2.2

private theorem retainedIn_eq (h : (ofProgram c p).Lists q) : retainedIn c q = q.functions := by
  rw [retainedIn, List.filter_eq_self]
  exact fun f hf => decide_eq_true (h.retention_eq hf)

private theorem nodup_names (h : (ofProgram c p).Lists q) : (q.functions.map (·.name)).Nodup := by
  rw [(h.functions.map _).nodup_iff, map_name_values (named_ofProgram c p)]
  exact Std.TreeMap.nodup_keys

/-- `retained?` gives the same function as in the program that was restricted first. -/
private theorem retained?_eq (h : (ofProgram c p).Lists q) (name : String) :
    q.retained? c name = p.retained? c name := by
  have hdistinct : ((retainedIn c q).map (·.name)).Nodup := h.retainedIn_eq ▸ h.nodup_names
  apply Option.ext
  intro f
  rw [Program.retained?_eq_some_iff hdistinct, h.retainedIn_eq, h.functions.mem_iff,
    mem_values_iff (named_ofProgram c p), ofProgram_getElem?]
  constructor
  · rintro ⟨hf, rfl⟩
    exact hf
  · intro hf
    cases Program.name_of_retained? hf
    exact ⟨hf, rfl⟩

/-- `ofProgram` of a listed module holds the same functions. -/
theorem ofProgram_nodes (h : (ofProgram c p).Lists q) :
    (ofProgram c q).nodes.Equiv (ofProgram c p).nodes := by
  apply Std.TreeMap.Equiv.of_forall_constGet?_eq
  intro name
  rw [ofProgram_getElem?, ofProgram_getElem?, h.retained?_eq]

/-- `ofProgram` of a listed module holds the same calls. -/
theorem ofProgram_calls (h : (ofProgram c p).Lists q) :
    (ofProgram c q).calls.Equiv (ofProgram c p).calls := by
  apply Std.TreeSet.Equiv.of_forall_mem_iff
  intro e
  rw [mem_ofProgram_calls_iff, h.calls.mem_iff, Std.TreeSet.mem_toList, h.retained?_eq,
    h.retained?_eq, mem_ofProgram_calls_iff]
  -- The ends of a call of the module are names of the module, so the second condition says nothing
  -- new.
  exact and_iff_left_of_imp fun hcall => hcall.2

/-- Nothing is dropped from a listed module, so `counts` has zeros for all but the totals. -/
theorem counts_eq (h : (ofProgram c p).Lists q) :
    counts c q =
      { totalFunctions := (counts c p).retainedFunctions
        retainedFunctions := (counts c p).retainedFunctions
        totalCalls := (counts c p).retainedCalls
        retainedCalls := (counts c p).retainedCalls } := by
  -- All that the module lists is retained again, under names that differ.
  have hdropped : ∀ r : Retention, r ≠ .retained →
      (q.functions.filter (·.retention c = r)).length = 0 := by
    intro r hr
    rw [List.length_eq_zero_iff, List.filter_eq_nil_iff]
    intro f hf
    simp [h.retention_eq hf, hr.symm]
  have hduplicates : (counts c q).duplicates = 0 := by
    rw [duplicates_eq_zero_iff, h.retainedIn_eq]
    exact h.nodup_names
  have hfunctions : q.functions.length = (ofProgram c p).nodes.size := by
    rw [h.functions.length_eq, values_eq_map_toList, List.length_map, Std.TreeMap.length_toList]
  have hcalls : q.calls.length = (ofProgram c p).calls.size := by
    rw [h.calls.length_eq, Std.TreeSet.length_toList]
  have hnodes : (ofProgram c q).nodes.size = (ofProgram c p).nodes.size := h.ofProgram_nodes.size_eq
  have hkept : (ofProgram c q).calls.size = (ofProgram c p).calls.size := h.ofProgram_calls.size_eq
  rw [Module.counts_eq] at hduplicates
  rw [Module.counts_eq, Module.counts_eq]
  dsimp only at hduplicates ⊢
  rw [hduplicates, hfunctions, hcalls, hnodes, hkept, hdropped _ (by decide),
    hdropped _ (by decide), hdropped _ (by decide)]

end Lists

/-- `ofProgram` holds for every name the first retained function that has it, and the calls between
its names. Each function of the program has one `Fate`, and the numbers of `counts` count the fates
and add up to all functions. Restricted once more, in any order, the module stays the same and
nothing is dropped. -/
theorem ofProgram_accounts_for_all (c : Settings) (p : Program) :
    let m := ofProgram c p
    let n := counts c p
    (∀ name, m.nodes[name]? =
      p.functions.find? fun f => f.name = name && f.retention c = .retained) ∧
    (∀ e, e ∈ m.calls ↔ e ∈ p.calls ∧ e.caller ∈ m.nodes ∧ e.callee ∈ m.nodes) ∧
    (∀ fate, n.ofFate fate = (p.fates c).count fate) ∧
    n.totalFunctions = p.functions.length ∧
    n.totalFunctions =
      n.retainedFunctions + n.unresolved + n.outsideModule + n.generated + n.duplicates ∧
    n.retainedFunctions = m.nodes.size ∧ n.retainedCalls = m.calls.size ∧
    n.totalCalls = p.calls.length ∧ n.retainedCalls ≤ n.totalCalls ∧
    ∀ q, m.Lists q →
      (ofProgram c q).nodes.toList = m.nodes.toList ∧
      (ofProgram c q).calls.toList = m.calls.toList ∧
      counts c q = { totalFunctions := n.retainedFunctions, retainedFunctions := n.retainedFunctions
                     totalCalls := n.retainedCalls, retainedCalls := n.retainedCalls } := by
  intro m n
  have hcalls : ∀ e, e ∈ m.calls ↔ e ∈ p.calls ∧ e.caller ∈ m.nodes ∧ e.callee ∈ m.nodes := by
    intro e
    rw [mem_ofProgram_iff, mem_ofProgram_iff]
    exact mem_ofProgram_calls_iff
  -- Two of the numbers are lengths of the lists that the loop goes through.
  have hnumbers := counts_eq c p
  refine ⟨ofProgram_getElem? c p, hcalls, counts_ofFate c p,
    congrArg FilterCounts.totalFunctions hnumbers, totalFunctions_eq c p, rfl, rfl,
    congrArg FilterCounts.totalCalls hnumbers, retainedCalls_le c p, ?_⟩
  intro q hq
  exact ⟨hq.ofProgram_nodes.toList_eq, hq.ofProgram_calls.toList_eq, hq.counts_eq⟩

/-- The first function named `app.f` has no place and the third one repeats it, so the second one is
kept. The module that it makes up alone is restricted to itself. -/
theorem ofProgram_accounts_for_all_of_mixed :
    let c : Settings := ⟨"app", "/work", [], [], (Marker.parse "gen").toOption.toList, true, .file⟩
    let p : Program :=
      ⟨[⟨"app.f", "", 0⟩, ⟨"app.f", "/work/a.go", 1⟩, ⟨"app.f", "/work/b.go", 2⟩,
        ⟨"fmt.P", "/lib/p.go", 3⟩, ⟨"app.g", "/work/gen.go", 4⟩],
        [⟨"app.f", "app.f"⟩, ⟨"app.f", "app.f"⟩, ⟨"app.f", "fmt.P"⟩, ⟨"app.g", "app.f"⟩]⟩
    let q : Program := ⟨[⟨"app.f", "/work/a.go", 1⟩], [⟨"app.f", "app.f"⟩]⟩
    p.fates c = [.unresolved, .kept, .duplicate, .outsideModule, .generated] ∧
      (ofProgram c p).Lists q ∧
      (ofProgram c q).nodes.toList = [("app.f", ⟨"app.f", "/work/a.go", 1⟩)] ∧
      counts c q =
        { totalFunctions := 1, retainedFunctions := 1, totalCalls := 1, retainedCalls := 1 } := by
  intro c p q
  have hlists : (ofProgram c p).Lists q := ⟨by decide +kernel, by decide +kernel⟩
  obtain ⟨_, _, _, _, _, _, _, _, _, hagain⟩ := ofProgram_accounts_for_all c p
  obtain ⟨hnodes, _, hcounts⟩ := hagain q hlists
  have hcontent : (ofProgram c p).nodes.toList = [("app.f", ⟨"app.f", "/work/a.go", 1⟩)] := by
    decide +kernel
  have hnumbers : (counts c p).retainedFunctions = 1 ∧ (counts c p).retainedCalls = 1 := by
    decide +kernel
  refine ⟨by decide +kernel, hlists, hnodes.trans hcontent, ?_⟩
  rw [hcounts, hnumbers.1, hnumbers.2]

end Module

end CallReach
