import CallReach.Proofs.ReachAgreement

/-!
# More program, more impact

A report never loses a pair of a source and a sink when functions come behind those of a program or
calls are added, when closures are linked, or when any function of the sink's file counts. All of
these widen the question in the same sense: names go on standing for the same functions, and links,
listed files and what counts as the sink only become more.

## Key results

- `Widens.reaches`: a wider question has no fewer pairs in its answer
- `Widens.reachableFunctions_le`: and no fewer reachable functions
- `analyze_monotone`: the ways in which a question becomes wider
-/

namespace CallReach

/-- The question that `d` asks about `q` is wider than the one that `c` asks about `p`. -/
structure Widens (p : Program) (c : Settings) (q : Program) (d : Settings) : Prop where
  retained : ∀ name f, p.retained? c name = some f → q.retained? d name = some f
  link : ∀ a b, p.Link c a b → q.Link d a b
  sources : c.sources ⊆ d.sources
  sinks : c.sinks ⊆ d.sinks
  counts : ∀ f t, c.granularity.Counts f t → d.granularity.Counts f t

namespace Widens

variable {p q : Program} {c d : Settings}

/-- `Widens` keeps chains of links. -/
theorem chain (h : Widens p c q d) {a b : String} (hab : Relation.ReflTransGen (p.Link c) a b) :
    Relation.ReflTransGen (q.Link d) a b :=
  Relation.ReflTransGen.mono h.link a b hab

/-- A sink that chains arrive at remains one. -/
private theorem arrives (h : Widens p c q d) {source : String} {t : Function}
    (harrives : p.Arrives c source t) : q.Arrives d source t := by
  obtain ⟨f, hreach, hf, hcounts⟩ := harrives
  exact ⟨f, h.chain hreach, h.retained f.name f hf, h.counts f t hcounts⟩

/-- `Report.Reaches` only grows with a wider question. -/
theorem reaches (h : Widens p c q d) {source sink : String}
    (hreaches : (analyze c p).Reaches source sink) : (analyze d q).Reaches source sink := by
  rw [analyze_reaches_iff] at hreaches ⊢
  obtain ⟨s, t, hs, hsource, ht, hsink, harrives⟩ := hreaches
  exact ⟨s, t, h.retained source s hs, h.sources hsource, h.retained sink t ht, h.sinks hsink,
    h.arrives harrives⟩

/-- `reachableFunctions` only grows with a wider question. -/
theorem reachableFunctions_le (h : Widens p c q d) :
    (analyze c p).reachableFunctions ≤ (analyze d q).reachableFunctions := by
  show ((p.callGraph c).reachableFrom _).size ≤ ((q.callGraph d).reachableFrom _).size
  rw [CallGraph.size_reachableFrom (callGraph_closed p c),
    CallGraph.size_reachableFrom (callGraph_closed q d)]
  -- The numbers are those of two sets, and the first set is part of the second.
  apply Finset.card_le_card
  intro b hb
  rw [mem_surface_sources_iff] at hb ⊢
  obtain ⟨s, hs, hsource, hreach⟩ := hb
  exact ⟨s, h.retained s.name s hs, h.sources hsource, h.chain hreach⟩

/-- Functions that come behind the others and calls that are added widen a question. -/
private theorem of_append {more : List Function} (hfunctions : q.functions = p.functions ++ more)
    (hcalls : p.calls ⊆ q.calls) (c : Settings) : Widens p c q c := by
  -- New functions come last, so the first retained function of a name is still the first.
  have hretained : ∀ name f, p.retained? c name = some f → q.retained? c name = some f :=
    fun name f hf => Program.retained?_append hfunctions hf
  have hsome : ∀ name, (p.retained? c name).isSome → (q.retained? c name).isSome := by
    intro name hname
    obtain ⟨f, hf⟩ := Option.isSome_iff_exists.mp hname
    rw [hretained name f hf]
    rfl
  refine ⟨hretained, ?_, fun _ h => h, fun _ h => h, fun _ _ h => h⟩
  rintro a b ⟨ha, hb, hlink⟩
  refine ⟨hsome a ha, hsome b hb, ?_⟩
  rcases hlink with hcall | hclosure
  · exact .inl (hcalls hcall)
  · exact .inr hclosure

private theorem of_linkClosures (p : Program) (c : Settings) :
    Widens p { c with linkClosures := false } p { c with linkClosures := true } := by
  refine ⟨fun _ _ h => h, ?_, fun _ h => h, fun _ h => h, fun _ _ h => h⟩
  rintro a b ⟨ha, hb, hlink⟩
  refine ⟨ha, hb, ?_⟩
  rcases hlink with hcall | ⟨hoff, _⟩
  · exact .inl hcall
  · cases hoff

private theorem of_granularity (p : Program) (c : Settings) :
    Widens p { c with granularity := .function } p { c with granularity := .file } := by
  refine ⟨fun _ _ h => h, fun _ _ h => h, fun _ h => h, fun _ h => h, ?_⟩
  intro f t hcounts
  rw [show f = t from hcounts]
  exact rfl

end Widens

/-- Impact is monotone: with functions behind the others and with more calls, `analyze` has all the
pairs of a source and a sink that it had, and no fewer reachable functions. So it has with closures
linked, and with any function of the sink's file counting. -/
theorem analyze_monotone (c : Settings) (p q : Program) (more : List Function)
    (hfunctions : q.functions = p.functions ++ more) (hcalls : p.calls ⊆ q.calls) :
    (∀ s t, (analyze c p).Reaches s t → (analyze c q).Reaches s t) ∧
    (analyze c p).reachableFunctions ≤ (analyze c q).reachableFunctions ∧
    (∀ s t, (analyze { c with linkClosures := false } p).Reaches s t →
      (analyze { c with linkClosures := true } p).Reaches s t) ∧
    (∀ s t, (analyze { c with granularity := .function } p).Reaches s t →
      (analyze { c with granularity := .file } p).Reaches s t) := by
  have hwidens := Widens.of_append hfunctions hcalls c
  refine ⟨?_, hwidens.reachableFunctions_le, ?_, ?_⟩
  · intro s t h
    exact hwidens.reaches h
  · intro s t h
    exact (Widens.of_linkClosures p c).reaches h
  · intro s t h
    exact (Widens.of_granularity p c).reaches h

/-- The pair remains when a call that led nowhere comes to lead somewhere, and when the name of the
sink is declared again in a source file. -/
theorem analyze_monotone_redeclared_sink :
    let c : Settings := ⟨"m", "/", ["/a"], ["/c"], [], false, .function⟩
    let p : Program := ⟨[⟨"m.a", "/a", 1⟩, ⟨"m.c", "/c", 1⟩], [⟨"m.a", "m.b"⟩, ⟨"m.a", "m.c"⟩]⟩
    let more : List Function := [⟨"m.b", "/c", 2⟩, ⟨"m.c", "/a", 2⟩]
    let q : Program := ⟨p.functions ++ more, ⟨"m.b", "m.a"⟩ :: p.calls⟩
    (analyze c p).Reaches "m.a" "m.c" ∧ (analyze c q).Reaches "m.a" "m.c" := by
  intro c p more q
  have hsource : p.retained? c "m.a" = some ⟨"m.a", "/a", 1⟩ := by decide +kernel
  have hsink : p.retained? c "m.c" = some ⟨"m.c", "/c", 1⟩ := by decide +kernel
  -- The one call whose ends are both declared.
  have hlink : p.Link c "m.a" "m.c" := by
    refine ⟨?_, ?_, .inl ?_⟩
    · rw [hsource]
      rfl
    · rw [hsink]
      rfl
    · exact .tail _ (.head _)
  have harrives : p.Arrives c "m.a" ⟨"m.c", "/c", 1⟩ :=
    ⟨⟨"m.c", "/c", 1⟩, .single hlink, hsink, rfl⟩
  have hreaches : (analyze c p).Reaches "m.a" "m.c" := by
    rw [analyze_reaches_iff]
    exact ⟨⟨"m.a", "/a", 1⟩, ⟨"m.c", "/c", 1⟩, hsource, .head _, hsink, .head _, harrives⟩
  refine ⟨hreaches, ?_⟩
  exact (analyze_monotone c p q more rfl (List.subset_cons_self _ _)).1 _ _ hreaches

end CallReach
