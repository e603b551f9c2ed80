import CallReach.Graph.Module
import CallReach.Proofs.ByteOrder
import Mathlib.Data.Finset.Card
import Mathlib.Data.List.Nodup

/-!
# What a module holds

The restriction of a program to a module, said without maps: a name stands for the first retained
function that has it, and a call remains if both of its ends stand for something.
`Filtering.ofProgram` goes through the functions and then through the calls; each fact about its end
comes from what one step does.

## Key results

- `Text.contains_iff_infix`: a text contains another one if that is a run of its characters
- `Function.retention_eq_retained_iff`: which functions are retained
- `ofProgram_getElem?`: a name stands for the first retained function that has it
- `mem_ofProgram_calls_iff`: which calls remain
- `counts_eq`: what is counted, without the loop
- `duplicates_eq_zero_iff`: when no function is dropped for its name
-/

namespace CallReach

/-- `occursIn` looks for a run of consecutive characters. -/
private theorem Text.occursIn_iff_infix (needle cs : List Char) :
    Text.occursIn needle cs = true ↔ needle <:+: cs := by
  induction cs with
  | nil => simp [Text.occursIn]
  | cons c cs ih =>
    rw [Text.occursIn, Bool.or_eq_true, List.isPrefixOf_iff_prefix, ih, List.infix_cons_iff]

/-- `contains` holds if the needle is a run of the characters of the text. -/
theorem Text.contains_iff_infix {text needle : String} :
    Text.contains text needle = true ↔ needle.toList <:+: text.toList :=
  Text.occursIn_iff_infix needle.toList text.toList

/-- `retention` retains a function if its place is known, its name contains the identifier of the
module, and no marker is found in its file. -/
theorem Function.retention_eq_retained_iff {c : Settings} {f : Function} :
    f.retention c = .retained ↔
      f.hasPosition = true ∧ Text.contains f.name c.module = true ∧
      ∀ m ∈ c.markers, m.marks f.file = false := by
  have hgenerated : c.isGenerated f.file = false ↔ ∀ m ∈ c.markers, m.marks f.file = false := by
    simp [Settings.isGenerated]
  rw [← hgenerated]
  unfold Function.retention
  cases hposition : f.hasPosition with
  | false => simp
  | true =>
    cases hname : Text.contains f.name c.module with
    | false => simp
    | true => cases c.isGenerated f.file <;> simp

/-- The first retained function with a name. -/
def Program.retained? (p : Program) (c : Settings) (name : String) : Option Function :=
  p.functions.find? fun f => f.name = name && f.retention c = .retained

/-- `retained?` gives a retained function of that name. -/
theorem Program.retained?_eq_some {p : Program} {c : Settings} {name : String} {f : Function}
    (h : p.retained? c name = some f) :
    f ∈ p.functions ∧ f.name = name ∧ f.retention c = .retained := by
  have hf := List.find?_some h
  rw [Bool.and_eq_true, decide_eq_true_eq, decide_eq_true_eq] at hf
  exact ⟨List.mem_of_find?_eq_some h, hf.1, hf.2⟩

theorem Program.name_of_retained? {p : Program} {c : Settings} {name : String} {f : Function}
    (h : p.retained? c name = some f) : f.name = name :=
  (Program.retained?_eq_some h).2.1

/-- A retained function stands for its name if no retained function before it has the same name. -/
theorem Program.retained?_eq_some_of_first {p : Program} {c : Settings} {f : Function}
    {front rest : List Function} (hp : p.functions = front ++ f :: rest)
    (hf : f.retention c = .retained)
    (hfront : ∀ g ∈ front, g.name = f.name → g.retention c ≠ .retained) :
    p.retained? c f.name = some f := by
  rw [Program.retained?, List.find?_eq_some_iff_append]
  refine ⟨by simp [hf], front, rest, hp, ?_⟩
  intro g hg
  have hnot := hfront g hg
  simpa [imp_iff_not_or] using hnot

/-- Functions that come later do not change what `retained?` gives for a name. -/
theorem Program.retained?_append {p q : Program} {c : Settings} {name : String} {f : Function}
    {more : List Function} (hq : q.functions = p.functions ++ more)
    (h : p.retained? c name = some f) : q.retained? c name = some f := by
  unfold Program.retained? at h ⊢
  rw [hq, List.find?_append, h, Option.some_or]

/-- The functions of a program that are retained, in order. -/
def Module.retainedIn (c : Settings) (p : Program) : List Function :=
  p.functions.filter (·.retention c = .retained)

theorem Module.mem_retainedIn_iff {p : Program} {c : Settings} {f : Function} :
    f ∈ Module.retainedIn c p ↔ f ∈ p.functions ∧ f.retention c = .retained := by
  rw [Module.retainedIn, List.mem_filter, decide_eq_true_eq]

/-- Where the functions of `retainedIn` have different names, `retained?` gives the one with that
name, wherever it comes. -/
theorem Program.retained?_eq_some_iff {p : Program} {c : Settings}
    (hdistinct : ((Module.retainedIn c p).map (·.name)).Nodup) {name : String} {f : Function} :
    p.retained? c name = some f ↔ f ∈ Module.retainedIn c p ∧ f.name = name := by
  constructor
  · intro h
    obtain ⟨hf, hname, hretained⟩ := Program.retained?_eq_some h
    exact ⟨Module.mem_retainedIn_iff.mpr ⟨hf, hretained⟩, hname⟩
  · rintro ⟨hf, rfl⟩
    have hsome : (p.retained? c f.name).isSome := by
      rw [Program.retained?, List.find?_isSome]
      obtain ⟨hmemf, hretained⟩ := Module.mem_retainedIn_iff.mp hf
      exact ⟨f, hmemf, by simp [hretained]⟩
    -- Some retained function has the name, and no other one has it.
    obtain ⟨f', hf'⟩ := Option.isSome_iff_exists.mp hsome
    obtain ⟨hmemf', hname, hretained⟩ := Program.retained?_eq_some hf'
    have hmem : f' ∈ Module.retainedIn c p := Module.mem_retainedIn_iff.mpr ⟨hmemf', hretained⟩
    rw [hf', List.inj_on_of_nodup_map hdistinct hmem hf hname]

namespace Filtering

/-- The state of `Filtering.ofProgram` before the first function. -/
def start (p : Program) : Filtering where
  counts := { totalFunctions := p.functions.length, totalCalls := p.calls.length }

variable {c : Settings} {s : Filtering}

/-! ## Functions -/

/-- `addFunction` keeps what a name stands for, and lets a retained function stand for a name that
is new. -/
theorem addFunction_getElem? (c : Settings) (s : Filtering) (f : Function) (name : String) :
    (addFunction c s f).module.nodes[name]? =
      s.module.nodes[name]?.or
        (if f.name = name ∧ f.retention c = .retained then some f else none) := by
  unfold addFunction
  cases f.retention c with
  | retained =>
    by_cases hname : f.name = name
    · subst hname
      by_cases hknown : f.name ∈ s.module.nodes <;> simp [Module.contains, hknown]
    · simp only [hname, false_and, if_false, Option.or_none]
      split
      · rfl
      · simp [Std.TreeMap.getElem?_insert, hname]
  | _ => simp

/-- After all functions, a name stands for the first retained function that has it. -/
private theorem foldl_addFunction_getElem? (fs : List Function) (name : String) :
    (fs.foldl (addFunction c) s).module.nodes[name]? =
      s.module.nodes[name]?.or (fs.find? fun f => f.name = name && f.retention c = .retained) := by
  induction fs generalizing s with
  | nil => rw [List.foldl_nil, List.find?_nil, Option.or_none]
  | cons f fs ih =>
    rw [List.foldl_cons, ih, addFunction_getElem?, Option.or_assoc, List.find?_cons]
    by_cases hf : f.name = name ∧ f.retention c = .retained
    · simp [hf]
    · have hskip : (decide (f.name = name) && decide (f.retention c = .retained)) = false := by
        simpa using hf
      rw [if_neg hf, Option.none_or, hskip]

theorem foldl_addFunction_calls (fs : List Function) :
    (fs.foldl (addFunction c) s).module.calls = s.module.calls := by
  induction fs generalizing s with
  | nil => rfl
  | cons f fs ih =>
    rw [List.foldl_cons, ih]
    unfold addFunction
    cases f.retention c with
    | retained => dsimp only; split <;> rfl
    | _ => rfl

/-- What the numbers have grown by after all functions. A retained function is a duplicate or a new
node, so these two are counted together. -/
private theorem foldl_addFunction_counts (fs : List Function) :
    let t := fs.foldl (addFunction c) s
    let number (r : Retention) : Nat := (fs.filter (·.retention c = r)).length
    t.counts.unresolved = s.counts.unresolved + number .unresolved ∧
    t.counts.outsideModule = s.counts.outsideModule + number .outsideModule ∧
    t.counts.generated = s.counts.generated + number .generated ∧
    t.counts.duplicates + t.module.nodes.size =
      s.counts.duplicates + s.module.nodes.size + number .retained ∧
    t.counts.totalFunctions = s.counts.totalFunctions ∧
    t.counts.totalCalls = s.counts.totalCalls := by
  induction fs generalizing s with
  | nil => simp
  | cons f fs ih =>
    obtain ⟨hunresolved, houtside, hgenerated, hretained, hfunctions, hcalls⟩ :=
      ih (s := addFunction c s f)
    simp only [List.foldl_cons, hunresolved, houtside, hgenerated, hretained, hfunctions, hcalls]
    unfold addFunction
    cases hf : f.retention c with
    | retained =>
      -- Only here the two numbers change: a known name is a duplicate, another one makes the map
      -- larger.
      by_cases hknown : f.name ∈ s.module.nodes
      · simp [Module.contains, hknown, hf]
        omega
      · simp [Module.contains, hknown, hf, Std.TreeMap.size_insert]
        omega
    | _ =>
      simp [hf]
      omega

/-! ## Calls -/

/-- `addCall` changes neither the functions nor the numbers. -/
theorem foldl_addCall_nodes (calls : List Call) :
    (calls.foldl addCall s).module.nodes = s.module.nodes ∧
    (calls.foldl addCall s).counts = s.counts := by
  induction calls generalizing s with
  | nil => exact ⟨rfl, rfl⟩
  | cons e calls ih =>
    obtain ⟨hnodes, hcounts⟩ := ih (s := addCall s e)
    rw [List.foldl_cons, hnodes, hcounts]
    unfold addCall
    split <;> exact ⟨rfl, rfl⟩

/-- The calls that `addCall` has kept are those between known names. -/
private theorem mem_foldl_addCall_iff {calls : List Call} {e : Call} :
    e ∈ (calls.foldl addCall s).module.calls ↔
      e ∈ s.module.calls ∨ e ∈ calls ∧ e.caller ∈ s.module.nodes ∧ e.callee ∈ s.module.nodes := by
  induction calls generalizing s with
  | nil => simp
  | cons d calls ih =>
    have hnodes : (addCall s d).module.nodes = s.module.nodes := (foldl_addCall_nodes [d]).1
    -- One step: a call is kept if both of its ends have been.
    have hcalls : e ∈ (addCall s d).module.calls ↔
        e ∈ s.module.calls ∨ d = e ∧ d.caller ∈ s.module.nodes ∧ d.callee ∈ s.module.nodes := by
      unfold addCall
      split
      · rename_i hknown
        simp only [Module.contains, Bool.and_eq_true, Std.TreeMap.contains_iff_mem] at hknown
        rw [Std.TreeSet.mem_insert, Std.LawfulEqCmp.compare_eq_iff_eq, and_iff_left hknown, or_comm]
      · rename_i hknown
        simp only [Module.contains, Bool.and_eq_true, Std.TreeMap.contains_iff_mem] at hknown
        simp [hknown]
    rw [List.foldl_cons, ih, hnodes, hcalls, List.mem_cons]
    grind

/-- `addCall` adds one call at most. -/
theorem size_foldl_addCall_le (calls : List Call) :
    (calls.foldl addCall s).module.calls.size ≤ s.module.calls.size + calls.length := by
  induction calls generalizing s with
  | nil => exact Nat.le_refl _
  | cons e calls ih =>
    have hstep : (addCall s e).module.calls.size ≤ s.module.calls.size + 1 := by
      unfold addCall
      split
      · exact Std.TreeSet.size_insert_le
      · exact Nat.le_succ _
    have hrest := ih (s := addCall s e)
    rw [List.foldl_cons, List.length_cons]
    omega

end Filtering

namespace Module

variable {c : Settings} {p : Program}

/-- In `ofProgram`, a name stands for the first retained function of the program that has it. -/
theorem ofProgram_getElem? (c : Settings) (p : Program) (name : String) :
    (ofProgram c p).nodes[name]? = p.retained? c name := by
  simp only [ofProgram, Filtering.ofProgram, Filtering.foldl_addCall_nodes,
    Filtering.foldl_addFunction_getElem?, Program.retained?]
  exact Option.none_or

/-- The names of `ofProgram` are those that retained functions have. -/
theorem mem_ofProgram_iff {name : String} :
    name ∈ (ofProgram c p).nodes ↔ (p.retained? c name).isSome := by
  rw [Std.TreeMap.mem_iff_isSome_getElem?, ofProgram_getElem?]

/-- The calls of `ofProgram` are those of the program between names of the module. -/
theorem mem_ofProgram_calls_iff {e : Call} :
    e ∈ (ofProgram c p).calls ↔
      e ∈ p.calls ∧ (p.retained? c e.caller).isSome ∧ (p.retained? c e.callee).isSome := by
  rw [← mem_ofProgram_iff, ← mem_ofProgram_iff]
  simp only [ofProgram, Filtering.ofProgram, Filtering.foldl_addCall_nodes,
    Filtering.mem_foldl_addCall_iff, Filtering.foldl_addFunction_calls]
  exact or_iff_right Std.TreeSet.not_mem_emptyc

/-- `ofProgram` holds as many functions as there are names in `retainedIn`. -/
private theorem size_ofProgram (c : Settings) (p : Program) :
    (ofProgram c p).nodes.size = ((retainedIn c p).map (·.name)).toFinset.card := by
  have hkeys : (ofProgram c p).nodes.keys.toFinset = ((retainedIn c p).map (·.name)).toFinset := by
    ext name
    rw [List.mem_toFinset, List.mem_toFinset, Std.TreeMap.mem_keys, mem_ofProgram_iff,
      Program.retained?, List.find?_isSome, List.mem_map]
    simp only [mem_retainedIn_iff, Bool.and_eq_true, decide_eq_true_eq]
    grind
  rw [← hkeys, List.toFinset_card_of_nodup Std.TreeMap.nodup_keys, Std.TreeMap.length_keys]

/-- `counts` without the loop: the functions of each retention, and as duplicates the retained ones
that are more than the names. -/
theorem counts_eq (c : Settings) (p : Program) :
    let number (r : Retention) : Nat := (p.functions.filter (·.retention c = r)).length
    counts c p =
      { totalFunctions := p.functions.length
        retainedFunctions := (ofProgram c p).nodes.size
        unresolved := number .unresolved
        outsideModule := number .outsideModule
        generated := number .generated
        duplicates := number .retained - (ofProgram c p).nodes.size
        totalCalls := p.calls.length
        retainedCalls := (ofProgram c p).calls.size } := by
  intro number
  obtain ⟨hunresolved, houtside, hgenerated, hretained, hfunctions, hcalls⟩ :=
    Filtering.foldl_addFunction_counts (c := c) (s := Filtering.start p) p.functions
  generalize ht : p.functions.foldl (Filtering.addFunction c) (Filtering.start p) = t at *
  obtain ⟨hnodes, hcounts⟩ := Filtering.foldl_addCall_nodes (s := t) p.calls
  -- The calls leave the numbers alone, and the sizes are read off at the end.
  have hfiltering : Filtering.ofProgram c p =
      { (p.calls.foldl Filtering.addCall t) with
        counts := { t.counts with
          retainedFunctions := (p.calls.foldl Filtering.addCall t).module.nodes.size
          retainedCalls := (p.calls.foldl Filtering.addCall t).module.calls.size } } := by
    rw [← hcounts, ← ht]
    rfl
  have hduplicates : t.counts.duplicates = number .retained - t.module.nodes.size :=
    Nat.eq_sub_of_add_eq (hretained.trans (Nat.zero_add _))
  simp only [counts, ofProgram, hfiltering, FilterCounts.mk.injEq]
  refine ⟨hfunctions, trivial, hunresolved.trans (Nat.zero_add _), houtside.trans (Nat.zero_add _),
    hgenerated.trans (Nat.zero_add _), ?_, hcalls, trivial⟩
  rw [hnodes]
  exact hduplicates

/-- No function is a duplicate exactly if the functions of `retainedIn` have different names. -/
theorem duplicates_eq_zero_iff :
    (counts c p).duplicates = 0 ↔ ((retainedIn c p).map (·.name)).Nodup := by
  let names := (retainedIn c p).map (·.name)
  have hlength : names.length = (retainedIn c p).length := List.length_map _
  have hsize : (ofProgram c p).nodes.size = names.toFinset.card := size_ofProgram c p
  have hle : names.toFinset.card ≤ names.length := List.toFinset_card_le names
  have hiff : names.toFinset.card = names.length ↔ names.Nodup :=
    Multiset.toFinset_card_eq_card_iff_nodup
  rw [counts_eq]
  -- As many functions are kept as there are different names, so the difference is zero exactly if
  -- no name is repeated.
  show (retainedIn c p).length - (ofProgram c p).nodes.size = 0 ↔ names.Nodup
  rw [← hiff]
  omega

end Module

end CallReach
