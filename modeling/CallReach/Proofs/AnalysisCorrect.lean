import CallReach.Analysis.Basic
import CallReach.Proofs.WitnessCorrect

/-!
# What a report says

The entries of a report, said without graphs and searches. `Program.Link` is the relation between
names that the settings ask about, and `IsAnswer` says what a report must hold: an entry for every
source, in it a witness for every sink that is reached and for no other, and on every witness a
chain of links.

## Key results

- `callGraph_adj`: the edges of the call graph are the links of the program
- `analyze_reaches_iff`: which sinks a source reaches
- `analyze_isAnswer`: the report of an analysis is the answer
-/

namespace CallReach

/-! ## The question -/

/-- A link from one name to another: both stand for a retained function, and the program has a call
between them or the other one is a closure in the first. -/
def Program.Link (p : Program) (c : Settings) (a b : String) : Prop :=
  (p.retained? c a).isSome ∧ (p.retained? c b).isSome ∧
    (⟨a, b⟩ ∈ p.calls ∨ c.linkClosures = true ∧ ClosureOf a b)

/-- Arriving at a function counts as reaching the sink. -/
def Granularity.Counts (granularity : Granularity) (f sink : Function) : Prop :=
  match granularity with
  | .file => f.file = sink.file
  | .function => f = sink

/-- A chain of links leads from a name to a function that counts as the sink. -/
def Program.Arrives (p : Program) (c : Settings) (source : String) (sink : Function) : Prop :=
  ∃ f, Relation.ReflTransGen (p.Link c) source f.name ∧ p.retained? c f.name = some f ∧
    c.granularity.Counts f sink

/-- The path of a witness is a chain of links from the source to a function that counts as the sink,
given by the records of the functions on it. -/
structure IsWitness (p : Program) (c : Settings) (source : Function) (w : Witness) : Prop where
  head : w.path.head? = some source
  chain : w.path.IsChain fun f h => p.Link c f.name h.name
  records : ∀ f ∈ w.path, p.retained? c f.name = some f
  last : ∃ f, w.path.getLast? = some f ∧ c.granularity.Counts f w.sink

/-- An entry has one witness for each sink that a chain arrives at and no other, in order of
name. -/
structure IsEntry (p : Program) (c : Settings) (e : SourceReach) : Prop where
  ascending : (e.reached.map (·.sink.name)).Pairwise Text.BytesLt
  sinks : ∀ t, (∃ w ∈ e.reached, w.sink = t) ↔
    p.retained? c t.name = some t ∧ t.file ∈ c.sinks ∧ p.Arrives c e.source.name t
  witnesses : ∀ w ∈ e.reached, IsWitness p c e.source w

/-- A report has one entry for each function that is declared in a source file, in order of name. -/
structure IsAnswer (p : Program) (c : Settings) (r : Report) : Prop where
  ascending : (r.sources.map (·.source.name)).Pairwise Text.BytesLt
  sources : ∀ s, (∃ e ∈ r.sources, e.source = s) ↔
    p.retained? c s.name = some s ∧ s.file ∈ c.sources
  entries : ∀ e ∈ r.sources, IsEntry p c e

/-- A report says that a source reaches a sink, both given by name. -/
def Report.Reaches (r : Report) (source sink : String) : Prop :=
  ∃ e ∈ r.sources, e.source.name = source ∧ ∃ w ∈ e.reached, w.sink.name = sink

/-! ## The graph of a program -/

/-- What a name stands for in `callGraph`. -/
theorem callGraph_getElem? (p : Program) (c : Settings) (name : String) :
    (p.callGraph c).nodes[name]? = p.retained? c name := by
  rw [Program.callGraph, CallGraph.build_nodes, Module.ofProgram_getElem?]

/-- The nodes of `callGraph` are the names of retained functions. -/
theorem mem_callGraph_iff {p : Program} {c : Settings} {name : String} :
    name ∈ (p.callGraph c).nodes ↔ (p.retained? c name).isSome := by
  rw [Std.TreeMap.mem_iff_isSome_getElem?, callGraph_getElem?]

theorem callGraph_named (p : Program) (c : Settings) : Named (p.callGraph c).nodes :=
  CallGraph.named_build p c c

/-- `callGraph` has no edge to a name that is no function. -/
theorem callGraph_closed (p : Program) (c : Settings) : (p.callGraph c).Closed :=
  CallGraph.closed_build p c c

/-- The edges of `callGraph` are the links of the program. -/
theorem callGraph_adj (p : Program) (c : Settings) : (p.callGraph c).Adj = p.Link c := by
  funext a b
  apply propext
  rw [Program.callGraph, CallGraph.build_adj_iff c (Module.named_ofProgram c p),
    Module.mem_ofProgram_calls_iff, Module.mem_ofProgram_iff, Module.mem_ofProgram_iff,
    Program.Link]
  tauto

/-- `Accepted` of a name is `Counts` of its record. -/
private theorem accepted_iff_counts {g : CallGraph} {granularity : Granularity} {a sink : String}
    {f t : Function} (hn : Named g.nodes) (hf : g.nodes[a]? = some f)
    (ht : g.nodes[sink]? = some t) :
    g.Accepted granularity sink a ↔ granularity.Counts f t := by
  cases granularity with
  | file =>
    rw [CallGraph.Accepted, Granularity.Counts]
    constructor
    · rintro ⟨f', t', hf', ht', hfile⟩
      rw [hf] at hf'
      rw [ht] at ht'
      cases hf'
      cases ht'
      exact hfile
    · intro hfile
      exact ⟨f, t, hf, ht, hfile⟩
  | function =>
    rw [CallGraph.Accepted, Granularity.Counts]
    constructor
    · rintro rfl
      rw [hf] at ht
      cases ht
      rfl
    · rintro rfl
      -- One record stands under one name only, as it has its name in it.
      rw [← hn a f hf, ← hn sink f ht]

/-- A name that is `Accepted` for a known sink has a record. -/
private theorem exists_record_of_accepted {g : CallGraph} {granularity : Granularity}
    {a sink : String} {t : Function} (ht : g.nodes[sink]? = some t)
    (h : g.Accepted granularity sink a) :
    ∃ f, g.nodes[a]? = some f := by
  cases granularity with
  | file =>
    obtain ⟨f, _, hf, _⟩ := h
    exact ⟨f, hf⟩
  | function =>
    cases h
    exact ⟨t, ht⟩

/-- `Arrives` in terms of walks in `callGraph`. -/
private theorem arrives_iff {p : Program} {c : Settings} {source sink : String} {t : Function}
    (ht : p.retained? c sink = some t) :
    p.Arrives c source t ↔
      ∃ a, Relation.ReflTransGen (p.callGraph c).Adj source a ∧
        (p.callGraph c).Accepted c.granularity sink a := by
  have hn := callGraph_named p c
  rw [← callGraph_getElem?] at ht
  rw [Program.Arrives, callGraph_adj]
  constructor
  · rintro ⟨f, hreach, hf, hcounts⟩
    rw [← callGraph_getElem?] at hf
    exact ⟨f.name, hreach, (accepted_iff_counts hn hf ht).mpr hcounts⟩
  · rintro ⟨a, hreach, hacc⟩
    -- What is accepted has a record, under its own name.
    obtain ⟨f, hf⟩ := exists_record_of_accepted ht hacc
    have hname := hn a f hf
    subst hname
    refine ⟨f, hreach, ?_, (accepted_iff_counts hn hf ht).mp hacc⟩
    rw [← callGraph_getElem?]
    exact hf

/-! ## Sources and sinks -/

/-- `declaredIn` are the functions that are declared in one of the files. -/
theorem mem_declaredIn_iff {nodes : Std.TreeMap String Function} {files : List String}
    {a : String} :
    a ∈ declaredIn nodes files ↔ ∃ f, nodes[a]? = some f ∧ f.file ∈ files := by
  simp only [declaredIn, List.mem_map, List.mem_filter, List.contains_iff_mem, Prod.exists,
    Std.TreeMap.mem_toList_iff_getElem?_eq_some]
  constructor
  · rintro ⟨name, f, hf, rfl⟩
    exact ⟨f, hf⟩
  · rintro ⟨f, hf⟩
    exact ⟨a, f, hf, rfl⟩

/-- `declaredIn` come in order, each once. -/
private theorem declaredIn_pairwise (nodes : Std.TreeMap String Function) (files : List String) :
    (declaredIn nodes files).Pairwise Text.BytesLt := by
  rw [declaredIn, List.pairwise_map]
  refine (Std.TreeMap.ordered_keys_toList.filter _).imp ?_
  intro x y hxy
  exact (Text.compare_eq_lt_iff x.1 y.1).mp hxy

/-- Where every result remembers what it was found for, the results of `filterMap` keep the
order. -/
private theorem map_filterMap_sublist {α β : Type} {f : α → Option β} {key : β → α}
    (h : ∀ a b, f a = some b → key b = a) (l : List α) : ((l.filterMap f).map key).Sublist l := by
  induction l with
  | nil => exact List.Sublist.slnil
  | cons a l ih =>
    cases hf : f a with
    | none =>
      rw [List.filterMap_cons_none hf]
      exact ih.cons a
    | some b =>
      rw [List.filterMap_cons_some hf, List.map_cons, h a b hf]
      exact ih.cons_cons a

namespace CallGraph

variable {g : CallGraph} {source sink : String} {granularity : Granularity} {sinks : List String}

/-- When `witness?` gives a witness, and which one. -/
private theorem witness?_eq_some_iff {w : Witness} :
    g.witness? granularity source sink = some w ↔
      ∃ path t, g.findPath source sink granularity = some path ∧ g.nodes[sink]? = some t ∧
        w = ⟨t, path.filterMap g.find?⟩ := by
  simp only [witness?, find?, Option.bind_eq_bind, Option.bind_eq_some_iff, Option.pure_def,
    Option.some.injEq]
  constructor
  · rintro ⟨path, hpath, t, ht, rfl⟩
    exact ⟨path, t, hpath, ht, rfl⟩
  · rintro ⟨path, t, hpath, ht, rfl⟩
    exact ⟨path, hpath, t, ht, rfl⟩

/-- `searchSource` gives an entry for a source of the graph, with the witnesses for the sinks. -/
private theorem searchSource_eq_some_iff {e : SourceReach} :
    g.searchSource source sinks granularity = some e ↔
      ∃ s, g.nodes[source]? = some s ∧
        e = ⟨s, sinks.filterMap (g.witness? granularity source)⟩ := by
  simp only [searchSource, find?, Option.bind_eq_bind, Option.bind_eq_some_iff, Option.pure_def,
    Option.some.injEq]
  constructor
  · rintro ⟨s, hs, rfl⟩
    exact ⟨s, hs, rfl⟩
  · rintro ⟨s, hs, rfl⟩
    exact ⟨s, hs, rfl⟩

/-- A chain of edges from a function of the graph stays in the graph. -/
private theorem mem_nodes_of_isChain {path : List String} (hsource : source ∈ g.nodes)
    (hhead : path.head? = some source) (hchain : path.IsChain g.Adj) : ∀ a ∈ path, a ∈ g.nodes := by
  intro a ha
  exact mem_nodes_of_reaches (reaches_of_isChain hhead hchain ha) hsource

/-- The records of a path have the names on it: none is missing, since all names are known. -/
private theorem map_name_filterMap_find? (hn : Named g.nodes) {path : List String}
    (hmem : ∀ a ∈ path, a ∈ g.nodes) : (path.filterMap g.find?).map (·.name) = path := by
  induction path with
  | nil => rfl
  | cons a path ih =>
    obtain ⟨f, hf⟩ := mem_iff_exists_record.mp (hmem a List.mem_cons_self)
    have hfind : g.find? a = some f := hf
    rw [List.filterMap_cons_some hfind, List.map_cons, hn a f hf,
      ih (fun b hb => hmem b (List.mem_cons_of_mem a hb))]

end CallGraph

/-! ## The answer -/

variable {p : Program} {c : Settings} {source sink : String}

/-- What `witness?` hands out for a source and a sink is a witness. -/
private theorem isWitness_of_witness? {s : Function} {w : Witness}
    (hs : p.retained? c source = some s)
    (h : (p.callGraph c).witness? c.granularity source sink = some w) : IsWitness p c s w := by
  have hn := callGraph_named p c
  obtain ⟨path, t, hpath, ht, rfl⟩ := CallGraph.witness?_eq_some_iff.mp h
  have hleast := CallGraph.findPath_isLeastPath hn (callGraph_closed p c) hpath
  have hnodes := CallGraph.mem_nodes_of_isChain (CallGraph.mem_of_findPath_eq_some hpath).1
    hleast.head hleast.chain
  have hnames := CallGraph.map_name_filterMap_find? hn hnodes
  have hrecord : ∀ f ∈ path.filterMap (p.callGraph c).find?,
      (p.callGraph c).nodes[f.name]? = some f := by
    intro f hf
    obtain ⟨a, _, ha⟩ := List.mem_filterMap.mp hf
    rw [hn a f ha]
    exact ha
  -- The head, the chain and the end of the records are read off from the names.
  refine ⟨?_, ?_, ?_, ?_⟩
  · have hhead := hleast.head
    rw [← hnames, List.head?_map, Option.map_eq_some_iff] at hhead
    obtain ⟨f, hf, hname⟩ := hhead
    have hget := hrecord f (List.mem_of_mem_head? hf)
    rw [hname, callGraph_getElem?, hs] at hget
    rw [hf, hget]
  · have hchain := hleast.chain
    rw [← hnames, List.isChain_map, callGraph_adj] at hchain
    exact hchain
  · intro f hf
    rw [← callGraph_getElem?]
    exact hrecord f hf
  · obtain ⟨a, hlast, hacc⟩ := hleast.last
    rw [← hnames, List.getLast?_map, Option.map_eq_some_iff] at hlast
    obtain ⟨f, hf, rfl⟩ := hlast
    exact ⟨f, hf, (accepted_iff_counts hn (hrecord f (List.mem_of_getLast? hf)) ht).mp hacc⟩

/-- `witness?` finds a witness for a sink exactly if the source `Arrives` there. -/
private theorem exists_witness?_iff {t : Function} (hs : (p.retained? c source).isSome) :
    (∃ w, (p.callGraph c).witness? c.granularity source sink = some w ∧ w.sink = t) ↔
      p.retained? c sink = some t ∧ p.Arrives c source t := by
  have hn := callGraph_named p c
  simp only [CallGraph.witness?_eq_some_iff, callGraph_getElem?]
  constructor
  · rintro ⟨w, ⟨path, t', hpath, ht, rfl⟩, rfl⟩
    exact ⟨ht, (arrives_iff ht).mpr
      (CallGraph.findPath_isLeastPath hn (callGraph_closed p c) hpath).reaches⟩
  · rintro ⟨ht, harrives⟩
    -- Both ends are known, so `findPath` can only fail for want of a chain.
    have hsome : (p.callGraph c).findPath source sink c.granularity ≠ none := by
      rw [ne_eq, CallGraph.findPath_eq_none_iff hn (callGraph_closed p c), mem_callGraph_iff,
        mem_callGraph_iff, ht]
      simp only [hs, Option.isSome_some, not_true_eq_false, false_or, not_not]
      exact (arrives_iff ht).mp harrives
    obtain ⟨path, hpath⟩ := Option.ne_none_iff_exists'.mp hsome
    exact ⟨_, ⟨path, t, hpath, ht, rfl⟩, rfl⟩

/-- The entries of `analyze`, by their sources. -/
theorem mem_sources_iff {e : SourceReach} :
    e ∈ (analyze c p).sources ↔
      ∃ s, p.retained? c s.name = some s ∧ s.file ∈ c.sources ∧
        e = ⟨s, (declaredIn (p.callGraph c).nodes c.sinks).filterMap
          ((p.callGraph c).witness? c.granularity s.name)⟩ := by
  show e ∈ (p.callGraph c).searchAll _ _ _ ↔ _
  simp only [CallGraph.searchAll, List.mem_filterMap, classify, mem_declaredIn_iff,
    CallGraph.searchSource_eq_some_iff, callGraph_getElem?]
  constructor
  · rintro ⟨name, ⟨s, hs, hfile⟩, s', hs', rfl⟩
    rw [hs] at hs'
    cases hs'
    obtain rfl := Program.name_of_retained? hs
    exact ⟨s, hs, hfile, rfl⟩
  · rintro ⟨s, hs, hfile, rfl⟩
    exact ⟨s.name, ⟨s, hs, hfile⟩, s, hs, rfl⟩

/-- The sources of `analyze` are the functions that are declared in source files. -/
theorem exists_mem_sources_iff {s : Function} :
    (∃ e ∈ (analyze c p).sources, e.source = s) ↔
      p.retained? c s.name = some s ∧ s.file ∈ c.sources := by
  constructor
  · rintro ⟨e, he, rfl⟩
    obtain ⟨s, hs, hfile, rfl⟩ := mem_sources_iff.mp he
    exact ⟨hs, hfile⟩
  · rintro ⟨hs, hfile⟩
    exact ⟨_, mem_sources_iff.mpr ⟨s, hs, hfile, rfl⟩, rfl⟩

/-- The entries of `analyze` are as they must be. -/
theorem isEntry_of_mem_sources {e : SourceReach} (he : e ∈ (analyze c p).sources) :
    IsEntry p c e := by
  obtain ⟨s, hs, _, rfl⟩ := mem_sources_iff.mp he
  refine ⟨?_, ?_, ?_⟩
  · -- Sinks are searched for in ascending order, and those that are not reached are left out.
    refine (declaredIn_pairwise (p.callGraph c).nodes c.sinks).sublist (map_filterMap_sublist ?_ _)
    intro a w hw
    obtain ⟨path, t, _, ht, rfl⟩ := CallGraph.witness?_eq_some_iff.mp hw
    exact callGraph_named p c a t ht
  · intro t
    simp only [List.mem_filterMap, mem_declaredIn_iff, callGraph_getElem?]
    have hsome : (p.retained? c s.name).isSome := by rw [hs]; rfl
    constructor
    · rintro ⟨w, ⟨a, ⟨t', ht', hfile⟩, hw⟩, hsink⟩
      -- A witness ends in the sink that was searched for.
      obtain ⟨ht, harrives⟩ := (exists_witness?_iff hsome).mp ⟨w, hw, hsink⟩
      rw [ht] at ht'
      cases ht'
      obtain rfl := Program.name_of_retained? ht
      exact ⟨ht, hfile, harrives⟩
    · rintro ⟨ht, hfile, harrives⟩
      obtain ⟨w, hw, hsink⟩ := (exists_witness?_iff hsome).mpr ⟨ht, harrives⟩
      exact ⟨w, ⟨t.name, ⟨t, ht, hfile⟩, hw⟩, hsink⟩
  · intro w hw
    obtain ⟨a, _, hw⟩ := List.mem_filterMap.mp hw
    exact isWitness_of_witness? hs hw

/-- `analyze` says that a source reaches a sink exactly if both are declared in files of their kind
and a chain of links arrives. -/
theorem analyze_reaches_iff :
    (analyze c p).Reaches source sink ↔
      ∃ s t, p.retained? c source = some s ∧ s.file ∈ c.sources ∧
        p.retained? c sink = some t ∧ t.file ∈ c.sinks ∧ p.Arrives c source t := by
  constructor
  · rintro ⟨e, he, rfl, w, hw, rfl⟩
    obtain ⟨ht, hsink, harrives⟩ := ((isEntry_of_mem_sources he).sinks w.sink).mp ⟨w, hw, rfl⟩
    obtain ⟨s, hs, hsource, rfl⟩ := mem_sources_iff.mp he
    exact ⟨s, w.sink, hs, hsource, ht, hsink, harrives⟩
  · rintro ⟨s, t, hs, hsource, ht, hsink, harrives⟩
    obtain rfl := Program.name_of_retained? hs
    obtain rfl := Program.name_of_retained? ht
    have he := mem_sources_iff.mpr ⟨s, hs, hsource, rfl⟩
    obtain ⟨w, hw, hwt⟩ := ((isEntry_of_mem_sources he).sinks t).mpr ⟨ht, hsink, harrives⟩
    exact ⟨_, he, rfl, w, hw, by rw [hwt]⟩

/-- The report of `analyze` is the answer: one entry for each source in order of name, in it one
witness for each sink that is reached in order of name, and on each witness a chain of links between
records. -/
theorem analyze_isAnswer (c : Settings) (p : Program) : IsAnswer p c (analyze c p) := by
  refine ⟨?_, ?_, fun e he => isEntry_of_mem_sources he⟩
  · refine (declaredIn_pairwise (p.callGraph c).nodes c.sources).sublist
      (map_filterMap_sublist ?_ _)
    intro a e he
    obtain ⟨s, hs, rfl⟩ := CallGraph.searchSource_eq_some_iff.mp he
    exact callGraph_named p c a s hs
  · intro s
    simp only [mem_sources_iff]
    constructor
    · rintro ⟨e, ⟨s', hs, hfile, rfl⟩, rfl⟩
      exact ⟨hs, hfile⟩
    · rintro ⟨hs, hfile⟩
      exact ⟨_, ⟨s, hs, hfile, rfl⟩, rfl⟩

end CallReach
