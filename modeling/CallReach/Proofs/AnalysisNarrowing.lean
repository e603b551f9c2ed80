import CallReach.Proofs.AnalysisMonotone
import CallReach.Proofs.AnalysisOrder

/-!
# A narrower filter, less impact

Settings narrow the filter of others if they mark more files as generated, or if the identifier of
their module contains that of the other one. A function that passes the narrower filter passes the
other one too, so where the functions of a program have different names, a name that stands for a
function goes on standing for it. Everything that is built on the filter follows: calls, edges,
sources, sinks, and the pairs of these that are reached.

Where names are shared this fails. The narrower filter may drop the first of the functions with a
name, and the name then stands for the next one, whatever its file.

## Key results

- `Narrows.retained?`: names go on standing for the same functions
- `Narrows.edgeKind?`: edges keep their kinds
- `Narrows.widens`: what is left behind is the wider question
- `narrowing_removes_impact`: what a narrower filter finds is among what the other one finds
-/

namespace CallReach

private theorem Text.contains_trans {text part needle : String}
    (hpart : Text.contains text part = true) (hneedle : Text.contains part needle = true) :
    Text.contains text needle = true := by
  rw [Text.contains_iff_infix] at hpart hneedle ⊢
  exact hneedle.trans hpart

/-- The settings `d` narrow the filter of `c`: they have all its markers, the identifier of their
module contains that of the other one, and nothing else differs. -/
structure Narrows (d c : Settings) : Prop where
  contained : Text.contains d.module c.module = true
  markers : c.markers ⊆ d.markers
  root : d.root = c.root
  sources : d.sources = c.sources
  sinks : d.sinks = c.sinks
  linkClosures : d.linkClosures = c.linkClosures
  granularity : d.granularity = c.granularity

namespace Narrows

variable {c d : Settings} {p : Program}

/-- A function that passes the narrower filter passes the other one. -/
theorem retention (h : Narrows d c) {f : Function} (hf : f.retention d = .retained) :
    f.retention c = .retained := by
  rw [Function.retention_eq_retained_iff] at hf ⊢
  obtain ⟨hposition, hname, hfile⟩ := hf
  refine ⟨hposition, Text.contains_trans hname h.contained, ?_⟩
  intro m hm
  exact hfile m (h.markers hm)

/-- `Program.retained?` gives the same functions for names that it gives one for. -/
theorem retained? (h : Narrows d c) (hdistinct : (p.functions.map (·.name)).Nodup) {name : String}
    {f : Function} (hf : p.retained? d name = some f) : p.retained? c name = some f := by
  obtain ⟨hmem, hname, hretained⟩ := Program.retained?_eq_some hf
  -- No other function has the name, so that none is in front of this one.
  have hdistinct' : ((Module.retainedIn c p).map (·.name)).Nodup :=
    hdistinct.sublist (List.filter_sublist.map _)
  rw [Program.retained?_eq_some_iff hdistinct']
  exact ⟨Module.mem_retainedIn_iff.mpr ⟨hmem, h.retention hretained⟩, hname⟩

theorem isSome (h : Narrows d c) (hdistinct : (p.functions.map (·.name)).Nodup) {name : String}
    (hname : (p.retained? d name).isSome) : (p.retained? c name).isSome := by
  obtain ⟨f, hf⟩ := Option.isSome_iff_exists.mp hname
  rw [h.retained? hdistinct hf]
  rfl

/-- The calls that `Module.ofProgram` keeps are among those it kept. -/
theorem calls (h : Narrows d c) (hdistinct : (p.functions.map (·.name)).Nodup) {e : Call}
    (he : e ∈ (Module.ofProgram d p).calls) : e ∈ (Module.ofProgram c p).calls := by
  rw [Module.mem_ofProgram_calls_iff] at he ⊢
  obtain ⟨hcall, hcaller, hcallee⟩ := he
  exact ⟨hcall, h.isSome hdistinct hcaller, h.isSome hdistinct hcallee⟩

/-- The edges of `callGraph` are among those that were there, and of the same kind. -/
theorem edgeKind? (h : Narrows d c) (hdistinct : (p.functions.map (·.name)).Nodup) {a b : String}
    {kind : EdgeKind} (hedge : (p.callGraph d).edgeKind? a b = some kind) :
    (p.callGraph c).edgeKind? a b = some kind := by
  rw [Program.callGraph, CallGraph.build_edgeKind?_eq_some_iff _ (Module.named_ofProgram _ p),
    Module.mem_ofProgram_iff, Module.mem_ofProgram_iff] at hedge ⊢
  obtain ⟨ha, hb, hkind⟩ := hedge
  refine ⟨h.isSome hdistinct ha, h.isSome hdistinct hb, ?_⟩
  cases kind with
  | call => exact h.calls hdistinct hkind
  | closure =>
    obtain ⟨hnot, hon, hof⟩ := hkind
    refine ⟨?_, h.linkClosures ▸ hon, hof⟩
    -- A call that comes in again would have been between names that remain.
    intro hcall
    have hcall := (Module.mem_ofProgram_calls_iff.mp hcall).1
    exact hnot (Module.mem_ofProgram_calls_iff.mpr ⟨hcall, ha, hb⟩)

/-- What is left behind is the wider question, in the sense of `Widens`. -/
theorem widens (h : Narrows d c) (hdistinct : (p.functions.map (·.name)).Nodup) :
    Widens p d p c := by
  refine ⟨fun _ _ hf => h.retained? hdistinct hf, ?_, fun _ hs => h.sources ▸ hs,
    fun _ hs => h.sinks ▸ hs, fun _ _ hcounts => h.granularity ▸ hcounts⟩
  intro a b hab
  obtain ⟨ha, hb, hcall⟩ := hab
  rw [h.linkClosures] at hcall
  exact ⟨h.isSome hdistinct ha, h.isSome hdistinct hb, hcall⟩

end Narrows

/-- Functions of `declaredIn` remain among such functions when the question becomes wider. -/
theorem Widens.declaredIn {p q : Program} {c d : Settings} (h : Widens p c q d)
    {files files' : List String} (hfiles : files ⊆ files') :
    CallReach.declaredIn (p.callGraph c).nodes files ⊆
      CallReach.declaredIn (q.callGraph d).nodes files' := by
  intro name hname
  rw [mem_declaredIn_iff] at hname ⊢
  obtain ⟨f, hf, hfile⟩ := hname
  rw [callGraph_getElem?] at hf
  refine ⟨f, ?_, hfiles hfile⟩
  rw [callGraph_getElem?]
  exact h.retained name f hf

/-- **A narrower filter only removes impact.** Where the functions of a program have different
names, what is found with the narrower filter is found with the other one: the functions and the
calls of the module, the edges of the graph with their kinds, the sources and sinks, and the pairs
of these that are reached. No more functions are reachable. -/
theorem narrowing_removes_impact (c d : Settings) (p : Program) (hnarrows : Narrows d c)
    (hdistinct : (p.functions.map (·.name)).Nodup) :
    (∀ name f, (Module.ofProgram d p).find? name = some f →
      (Module.ofProgram c p).find? name = some f) ∧
    (∀ e ∈ (Module.ofProgram d p).calls, e ∈ (Module.ofProgram c p).calls) ∧
    (p.callGraph d).edges ⊆ (p.callGraph c).edges ∧
    (classify d (p.callGraph d).nodes).sources ⊆ (classify c (p.callGraph c).nodes).sources ∧
    (classify d (p.callGraph d).nodes).sinks ⊆ (classify c (p.callGraph c).nodes).sinks ∧
    (∀ s t, (analyze d p).Reaches s t → (analyze c p).Reaches s t) ∧
    (analyze d p).reachableFunctions ≤ (analyze c p).reachableFunctions := by
  have hwidens := hnarrows.widens hdistinct
  refine ⟨?_, fun e he => hnarrows.calls hdistinct he, ?_, hwidens.declaredIn hwidens.sources,
    hwidens.declaredIn hwidens.sinks, fun s t hreaches => hwidens.reaches hreaches,
    hwidens.reachableFunctions_le⟩
  · intro name f hf
    rw [Module.find?, Module.ofProgram_getElem?] at hf ⊢
    exact hnarrows.retained? hdistinct hf
  · intro e he
    rw [CallGraph.mem_edges_iff, (callGraph_closed p _).kind?_eq] at he ⊢
    exact hnarrows.edgeKind? hdistinct he

/-- A closure leads from the source to the sink. The narrower filter drops a function for its name
and another one for its file, and the pair that it finds is found without it. -/
theorem narrowing_removes_impact_of_closure :
    let markers (texts : List String) := texts.filterMap fun text => (Marker.parse text).toOption
    let c : Settings := ⟨"m", "/", ["/a"], ["/c"], markers ["wire_gen"], true, .function⟩
    let d : Settings := { c with module := "m.x", markers := markers ["wire_gen", "^/gen/"] }
    let p : Program :=
      ⟨[⟨"m.x.a", "/a", 1⟩, ⟨"m.x.a$1", "/a", 2⟩, ⟨"m.x.c", "/c", 1⟩, ⟨"m.c", "/c", 2⟩,
        ⟨"m.x.g", "/gen/c", 1⟩],
        [⟨"m.x.a$1", "m.x.c"⟩, ⟨"m.x.a$1", "m.c"⟩, ⟨"m.x.g", "m.x.a"⟩]⟩
    Narrows d c ∧ (p.functions.map (·.name)).Nodup ∧ (Module.retainedIn d p).length = 3 ∧
      (Module.retainedIn c p).length = 5 ∧ (analyze d p).Reaches "m.x.a" "m.x.c" ∧
      (analyze c p).Reaches "m.x.a" "m.x.c" := by
  intro markers c d p
  have hnarrows : Narrows d c := by
    refine ⟨by decide +kernel, ?_, rfl, rfl, rfl, rfl, rfl⟩
    exact List.filterMap_subset _ (List.cons_subset_cons _ (List.nil_subset _))
  have hdistinct : (p.functions.map (·.name)).Nodup := by decide +kernel
  have hsource : p.retained? d "m.x.a" = some ⟨"m.x.a", "/a", 1⟩ := by decide +kernel
  have hsink : p.retained? d "m.x.c" = some ⟨"m.x.c", "/c", 1⟩ := by decide +kernel
  -- The way goes through the closure of the source.
  have hclosure : p.Link d "m.x.a" "m.x.a$1" :=
    ⟨by decide +kernel, by decide +kernel, .inr ⟨rfl, by decide +kernel⟩⟩
  have hcall : p.Link d "m.x.a$1" "m.x.c" :=
    ⟨by decide +kernel, by decide +kernel, .inl (by decide)⟩
  have harrives : p.Arrives d "m.x.a" ⟨"m.x.c", "/c", 1⟩ :=
    ⟨⟨"m.x.c", "/c", 1⟩, .tail (.single hclosure) hcall, hsink, rfl⟩
  have hreaches : (analyze d p).Reaches "m.x.a" "m.x.c" := by
    rw [analyze_reaches_iff]
    exact ⟨_, _, hsource, .head _, hsink, .head _, harrives⟩
  refine ⟨hnarrows, hdistinct, by decide +kernel, by decide +kernel, hreaches, ?_⟩
  exact (narrowing_removes_impact c d p hnarrows hdistinct).2.2.2.2.2.1 _ _ hreaches

/-- Where a name is shared, a narrower filter may bring a source in: with the first function of the
name dropped for its file, the name stands for the second one. -/
example :
    let c : Settings := ⟨"m", "/", ["/a"], ["/a"], [], true, .file⟩
    let d : Settings := { c with markers := (Marker.parse "^/gen/").toOption.toList }
    let p : Program := ⟨[⟨"m.f", "/gen/a", 1⟩, ⟨"m.f", "/a", 1⟩], []⟩
    ((classify c (Module.ofProgram c p).nodes).sources,
      (classify d (Module.ofProgram d p).nodes).sources) = ([], ["m.f"]) := by
  decide +kernel

end CallReach
