import CallReach.Proofs.AnalysisOrder
import CallReach.Proofs.IndexCorrect
import Mathlib.Data.List.Perm.Basic

/-!
# The order of source files does not matter

The index lists the functions under a key in the order of the files, so another order of the files
gives the calls in another order. It gives the same calls, each as often: what a reference names is
a rearrangement of what it named before, and a path that finds nothing as resolved finds nothing in
any order. A report is then the same if the functions have different names.

## Key results

- `FunctionIndex.resolve_perm`: a reference names the same functions in any order of the files
- `link_functions_perm`, `link_calls_perm`: a linked program has the same functions and calls
- `link_order_irrelevant`: the report is the same
-/

namespace CallReach.Source

variable {units units' : List SourceUnit}

namespace FunctionIndex

private theorem lookupPath_perm (h : units'.Perm units) (path : String) :
    ((build units').lookupPath path).Perm ((build units).lookupPath path) := by
  rw [lookupPath_build, lookupPath_build]
  exact ((h.flatMap_right _).filter _).map _

private theorem lookupMethod_perm (h : units'.Perm units) (name : String) :
    ((build units').lookupMethod name).Perm ((build units).lookupMethod name) := by
  rw [lookupMethod_build, lookupMethod_build]
  exact ((h.flatMap_right _).filter _).map _

/-- `resolve` names the same functions in any order of the files. -/
theorem resolve_perm (h : units'.Perm units) (u : SourceUnit) (r : Reference) :
    ((build units').resolve u r).Perm ((build units).resolve u r) := by
  cases r with
  | path text =>
    have hresolved := lookupPath_perm h (Text.joinSegments (u.imports.resolvePath u.module text))
    have hwritten := lookupPath_perm h text
    unfold resolve
    dsimp only
    -- The path as written is looked up in both orders or in neither.
    cases hfound : (build units).lookupPath
      (Text.joinSegments (u.imports.resolvePath u.module text)) with
    | nil =>
      rw [hfound, List.perm_nil] at hresolved
      rw [hresolved]
      exact hwritten
    | cons first rest =>
      rw [hfound] at hresolved
      cases hfound' : (build units').lookupPath
          (Text.joinSegments (u.imports.resolvePath u.module text)) with
      | nil =>
        rw [hfound', List.nil_perm] at hresolved
        simp at hresolved
      | cons first' rest' =>
        rw [hfound'] at hresolved
        exact hresolved
  | method name => exact lookupMethod_perm h name

end FunctionIndex

/-- `link` gives the same functions in any order of the files. -/
theorem link_functions_perm (package : String) (h : units'.Perm units) :
    (link package units').functions.Perm (link package units).functions :=
  h.flatMap_right _

/-- `link` gives the same calls in any order of the files, each as often. -/
theorem link_calls_perm (package : String) (h : units'.Perm units) :
    (link package units').calls.Perm (link package units).calls := by
  unfold link
  dsimp only
  -- The files change their order, and so does what each reference names.
  refine List.Perm.flatMap h fun u _ => ?_
  refine List.Perm.flatMap_left _ fun b _ => ?_
  refine List.Perm.flatMap_left _ fun r _ => ?_
  exact ((FunctionIndex.resolve_perm h u r).filter _).map _

/-- In any order of the files `link` gives the same functions and the same calls, each as often.
Where the functions have different names, the report is the same for all settings. -/
theorem link_order_irrelevant (package : String) {units units' : List SourceUnit}
    (h : units'.Perm units) :
    let p := link package units
    let q := link package units'
    q.functions.Perm p.functions ∧ q.calls.Perm p.calls ∧
      ((p.functions.map (·.name)).Nodup → ∀ c : Settings, analyze c q = analyze c p) := by
  intro p q
  have hfunctions : q.functions.Perm p.functions := link_functions_perm package h
  have hcalls : q.calls.Perm p.calls := link_calls_perm package h
  refine ⟨hfunctions, hcalls, ?_⟩
  intro hnames c
  -- Names that differ in the package differ among the retained functions.
  have hdistinct : ((Module.retainedIn c p).map (·.name)).Nodup :=
    hnames.sublist (List.filter_sublist.map _)
  have hsame : SameContent c p q :=
    sameContent_of_perm hdistinct hfunctions (fun e => hcalls.mem_iff)
  exact analyze_eq_of_perm hsame hfunctions hcalls

/-- Two files declare `g`, which a third one calls by its name alone. The calls come in the order of
the files, and the report is the same. -/
theorem link_order_irrelevant_of_two_callees :
    let a : SourceUnit := ⟨"/work/src/a.rs", ["a"], {}, [⟨"a::f", 1, false, false, {.path "g"}⟩]⟩
    let b : SourceUnit := ⟨"/work/src/b.rs", ["b"], {}, [⟨"b::g", 1, false, false, {}⟩]⟩
    let c : SourceUnit := ⟨"/work/src/c.rs", ["c"], {}, [⟨"c::g", 1, false, false, {}⟩]⟩
    let p := link "app" [a, b, c]
    let q := link "app" [c, b, a]
    p.calls = [⟨"app::a::f", "app::b::g"⟩, ⟨"app::a::f", "app::c::g"⟩] ∧
      q.calls = [⟨"app::a::f", "app::c::g"⟩, ⟨"app::a::f", "app::b::g"⟩] ∧
      q.functions.Perm p.functions ∧ q.calls.Perm p.calls ∧
      ∀ s : Settings, analyze s q = analyze s p := by
  intro a b c p q
  have hnames : (p.functions.map (·.name)).Nodup := by decide +kernel
  have horder : [c, b, a].Perm [a, b, c] := List.reverse_perm [a, b, c]
  obtain ⟨hfunctions, hcalls, hreport⟩ := link_order_irrelevant "app" horder
  exact ⟨by decide +kernel, by decide +kernel, hfunctions, hcalls, hreport hnames⟩

end CallReach.Source
