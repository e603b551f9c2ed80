import CallReach.Proofs.ListedFiles
import Mathlib.Logic.Relation

/-!
# Listed files are locations

The files of the settings are given as a list of texts, but an analysis knows them only as a set of
locations. Where an entry leads is its canonical form as seen from the root directory. Built
settings hold every location once, in the order in which the entries first lead there, so that
another spelling or a repetition of entries cannot be told from them. Another order of the entries
is another order of the locations, and shows in a report in one place only: where the files that
declare no function are listed.

Locations are compared by their components when settings are built, and letter by letter when
functions are looked up by their files. Both come to the same, since canonical paths with the same
components are the same text.

## Key results

- `Settings.isResolved_resolveFiles`: the locations of a list of files
- `Respells.map_eraseDups`: another spelling has the same locations
- `Settings.Draft.build_with_files`: the same draft with other files
- `analyze_with_files`: the same settings with their files in another order
- `isMatching_of_nodup`: listed files against the functions of a program
- `listed_files_are_locations`: what settings and reports tell of the files that are listed
-/

namespace CallReach

/-! ## Locations -/

/-- The locations of a list of files: absolute canonical paths that differ in their components,
those that an entry leads to as it is seen from the root directory, in the order in which the
entries first lead there. -/
structure IsResolved (root : String) (files paths : List String) : Prop where
  canonical : ∀ path ∈ paths, Path.isAbsolute path = true ∧ Path.normalize path = path
  distinct : paths.Pairwise fun a b => Path.components a ≠ Path.components b
  mem_iff : ∀ path, path ∈ paths ↔ ∃ file ∈ files, Path.normalize (Path.join root file) = path
  ordered : paths.Pairwise fun a b =>
    (files.map fun file => Path.normalize (Path.join root file)).idxOf a <
      (files.map fun file => Path.normalize (Path.join root file)).idxOf b

theorem IsResolved.nodup {root : String} {files paths : List String}
    (h : IsResolved root files paths) : paths.Nodup := by
  refine h.distinct.imp ?_
  intro a b hne heq
  exact hne (congrArg Path.components heq)

namespace Settings

variable {cwd root : String} {files : List String}

/-- `resolveFiles` under an absolute root directory: the canonical forms of the paths, each once. -/
private theorem resolveFiles_of_absolute (hroot : Path.isAbsolute root = true) (cwd : String)
    (files : List String) :
    resolveFiles cwd root files =
      (files.map fun file => Path.normalize (Path.join root file)).eraseDups := by
  have hpath : ∀ file, Path.absolute cwd (Path.join root file) =
      Path.normalize (Path.join root file) := by
    intro file
    rw [Path.absolute, if_pos (Path.isAbsolute_join_of_absolute hroot file)]
  simp only [resolveFiles_eq_eraseDups, hpath]

/-- `resolveFiles` gives the locations of the files. -/
theorem isResolved_resolveFiles (hroot : Path.isAbsolute root = true) (cwd : String)
    (files : List String) :
    IsResolved root files (resolveFiles cwd root files) := by
  have heq := resolveFiles_of_absolute hroot cwd files
  have hcanonical : ∀ path ∈ resolveFiles cwd root files, Path.isAbsolute path = true ∧
      Path.normalize path = path := by
    intro path hpath
    rw [heq, List.mem_eraseDups, List.mem_map] at hpath
    obtain ⟨file, -, rfl⟩ := hpath
    rw [Path.isAbsolute_normalize, Path.normalize_normalize]
    exact ⟨Path.isAbsolute_join_of_absolute hroot file, rfl⟩
  refine ⟨hcanonical, ?_, ?_, ?_⟩
  · have hnodup : (resolveFiles cwd root files).Nodup := heq ▸ List.nodup_eraseDups _
    refine hnodup.imp_of_mem ?_
    intro a b ha hb hne hcomponents
    -- Canonical paths with the same components are the same text.
    have hsame : Path.same a b = true := decide_eq_true hcomponents
    exact hne ((Path.same_iff_of_canonical (hcanonical a ha).2 (hcanonical b hb).2).mp hsame)
  · intro path
    rw [heq, List.mem_eraseDups, List.mem_map]
  · rw [heq]
    exact List.eraseDups_pairwise_idxOf _

end Settings

/-! ## Other spellings -/

/-- A list of files is spelled in another way: an entry becomes another one that leads to the same
place, or an entry that came before is repeated. -/
inductive Respells (root : String) : List String → List String → Prop where
  | spelling (front rest : List String) {file file' : String}
      (h : Path.normalize (Path.join root file) = Path.normalize (Path.join root file')) :
      Respells root (front ++ file :: rest) (front ++ file' :: rest)
  | repetition (front rest : List String) {file : String} (h : file ∈ front) :
      Respells root (front ++ rest) (front ++ file :: rest)

/-- `Respells` cannot be seen in what depends on the locations alone, each taken once. -/
theorem Respells.map_eraseDups {root : String} {place : String → String}
    (hplace : ∀ file file', Path.normalize (Path.join root file) =
      Path.normalize (Path.join root file') → place file = place file')
    {files files' : List String} (h : Respells root files files') :
    (files.map place).eraseDups = (files'.map place).eraseDups := by
  cases h with
  | spelling front rest hsame =>
    rw [List.map_append, List.map_append, List.map_cons, List.map_cons, hplace _ _ hsame]
  | repetition front rest hfile =>
    rw [List.map_append, List.map_append, List.map_cons,
      List.eraseDups_append_cons_of_mem (List.mem_map_of_mem hfile)]

private theorem eqvGen_respells_map_eraseDups {root : String} {place : String → String}
    (hplace : ∀ file file', Path.normalize (Path.join root file) =
      Path.normalize (Path.join root file') → place file = place file')
    {files files' : List String} (h : Relation.EqvGen (Respells root) files files') :
    (files.map place).eraseDups = (files'.map place).eraseDups := by
  induction h with
  | rel _ _ hstep => exact hstep.map_eraseDups hplace
  | refl _ => rfl
  | symm _ _ _ ih => exact ih.symm
  | trans _ _ _ _ _ ih ih' => exact ih.trans ih'

namespace Settings

private theorem resolveFiles_eq_nil_iff (cwd root : String) {files : List String} :
    resolveFiles cwd root files = [] ↔ files = [] := by
  constructor
  · intro h
    rw [List.eq_nil_iff_forall_not_mem]
    intro file hfile
    have hmem : Path.absolute cwd (Path.join root file) ∈ resolveFiles cwd root files :=
      mem_resolveFiles_iff.mpr ⟨file, hfile, rfl⟩
    rw [h] at hmem
    cases hmem
  · rintro rfl
    rfl

variable {d : Draft} {cwd : String} {c : Settings}

/-- `build` resolves the files of the draft. -/
private theorem Draft.files_of_build (hbuild : d.build cwd = .ok c) :
    c.root = Path.absolute cwd d.root ∧ c.sources = resolveFiles cwd c.root d.sources ∧
      c.sinks = resolveFiles cwd c.root d.sinks := by
  obtain ⟨-, -, -, markers, -, rfl⟩ := Draft.build_eq_ok_iff.mp hbuild
  exact ⟨rfl, rfl, rfl⟩

/-- `build` of the same draft with other files gives the same settings with the locations of
those. -/
theorem Draft.build_with_files (hbuild : d.build cwd = .ok c) {sources sinks : List String}
    (hsources : sources ≠ []) (hsinks : sinks ≠ []) :
    { d with sources, sinks }.build cwd =
      .ok { c with
        sources := resolveFiles cwd c.root sources
        sinks := resolveFiles cwd c.root sinks } := by
  obtain ⟨hmodule, -, -, markers, hmarkers, rfl⟩ := Draft.build_eq_ok_iff.mp hbuild
  rw [Draft.build_eq_ok_iff]
  exact ⟨hmodule, hsources, hsinks, markers, hmarkers, rfl⟩

/-- `resolveFiles` gives the same for another spelling, be it seen from the root directory as it was
given or as it is in the settings. -/
private theorem resolveFiles_eq_of_respells (hcwd : Path.isAbsolute cwd = true)
    (hbuild : d.build cwd = .ok c) {root : String} (hroot : root = d.root ∨ root = c.root)
    {files files' : List String} (h : Relation.EqvGen (Respells root) files files') :
    resolveFiles cwd c.root files = resolveFiles cwd c.root files' := by
  have hbuilt : c.root = Path.absolute cwd d.root := (Draft.files_of_build hbuild).1
  rw [resolveFiles_eq_eraseDups, resolveFiles_eq_eraseDups]
  apply eqvGen_respells_map_eraseDups ?_ h
  intro file file' hsame
  -- The absolute form of a path depends on its canonical form alone.
  rcases hroot with rfl | rfl
  · rw [hbuilt, Path.absolute_join hcwd, Path.absolute_join hcwd, ← Path.absolute_normalize, hsame,
      Path.absolute_normalize]
  · rw [← Path.absolute_normalize, hsame, Path.absolute_normalize]

end Settings

/-! ## Other orders -/

/-- Two reports differ in nothing but the order in which files that declare no function are
listed. -/
structure Report.SameUpToOrder (r r' : Report) : Prop where
  unmatchedSources : r'.unmatchedSources.Perm r.unmatchedSources
  unmatchedSinks : r'.unmatchedSinks.Perm r.unmatchedSinks
  others : r' =
    { r with unmatchedSources := r'.unmatchedSources, unmatchedSinks := r'.unmatchedSinks }

/-- `declaredIn` does not depend on the order of the files. -/
private theorem declaredIn_perm (nodes : Std.TreeMap String Function) {files files' : List String}
    (h : files'.Perm files) :
    declaredIn nodes files' = declaredIn nodes files := by
  have hcontains : ∀ file, files'.contains file = files.contains file := by
    intro file
    rw [Bool.eq_iff_iff, List.contains_iff_mem, List.contains_iff_mem, h.mem_iff]
  unfold declaredIn
  simp only [hcontains]

/-- `analyze` with the files in another order gives a report that is `SameUpToOrder`. -/
theorem analyze_with_files (c : Settings) (p : Program) {sources sinks : List String}
    (hsources : sources.Perm c.sources) (hsinks : sinks.Perm c.sinks) :
    (analyze c p).SameUpToOrder (analyze { c with sources, sinks } p) := by
  have hunmatchedSources : (unmatchedIn (p.callGraph c).nodes sources).Perm
      (unmatchedIn (p.callGraph c).nodes c.sources) :=
    hsources.filter _
  have hunmatchedSinks : (unmatchedIn (p.callGraph c).nodes sinks).Perm
      (unmatchedIn (p.callGraph c).nodes c.sinks) :=
    hsinks.filter _
  -- The graph does not depend on the files.
  have hgraph : p.callGraph { c with sources, sinks } = p.callGraph c := rfl
  have hfilter : Module.counts { c with sources, sinks } p = Module.counts c p := rfl
  refine ⟨hunmatchedSources, hunmatchedSinks, ?_⟩
  simp only [analyze, hgraph, hfilter, classify, Classification.counts, declaredIn_perm _ hsources,
    declaredIn_perm _ hsinks, hunmatchedSources.length_eq, hunmatchedSinks.length_eq]

/-! ## Files and functions -/

/-- The listed files against the functions of a module: the functions that are declared in one of
them, and the files that declare none, each once and in the order of the list. -/
structure IsMatching (p : Program) (c : Settings) (files members unmatched : List String) :
    Prop where
  mem_members_iff : ∀ name, name ∈ members ↔ ∃ f, p.retained? c name = some f ∧ f.file ∈ files
  mem_unmatched_iff : ∀ file, file ∈ unmatched ↔
    file ∈ files ∧ ∀ name f, p.retained? c name = some f → f.file ≠ file
  ordered : unmatched.Sublist files
  once : unmatched.Nodup

/-- `declaredIn` and `unmatchedIn` are an `IsMatching`, if no file is repeated. -/
theorem isMatching_of_nodup (p : Program) (c : Settings) {files : List String} (h : files.Nodup) :
    IsMatching p c files (declaredIn (p.callGraph c).nodes files)
      (unmatchedIn (p.callGraph c).nodes files) := by
  have hordered : (unmatchedIn (p.callGraph c).nodes files).Sublist files := List.filter_sublist
  refine ⟨?_, ?_, hordered, h.sublist hordered⟩
  · intro name
    simp only [mem_declaredIn_iff, callGraph_getElem?]
  · intro file
    simp only [mem_unmatchedIn_iff (callGraph_named p c), callGraph_getElem?]

/-- **The files of an analysis are known as a set of locations.** The settings are built in an
absolute directory. Then they hold the locations of the files in the draft. Other spellings and
repetitions of entries give the same settings. Another order of the entries is accepted as well, and
the reports on any program differ in nothing but the order in which files that declare no function
are listed. Such a file is listed exactly if no retained function is declared in it, and all
functions that are declared in listed files are sources or sinks. -/
theorem listed_files_are_locations {d : Settings.Draft} {cwd : String} {c : Settings}
    (hcwd : Path.isAbsolute cwd = true) (hbuild : d.build cwd = .ok c) :
    (IsResolved c.root d.sources c.sources ∧ IsResolved c.root d.sinks c.sinks) ∧
    (∀ root sources sinks, root = d.root ∨ root = c.root →
      Relation.EqvGen (Respells root) d.sources sources →
      Relation.EqvGen (Respells root) d.sinks sinks → { d with sources, sinks }.build cwd = .ok c) ∧
    (∀ sources sinks, sources.Perm d.sources → sinks.Perm d.sinks →
      ∃ c', { d with sources, sinks }.build cwd = .ok c' ∧
        ∀ p, (analyze c p).SameUpToOrder (analyze c' p)) ∧
    ∀ p, IsMatching p c c.sources (classify c (p.callGraph c).nodes).sources
      (analyze c p).unmatchedSources ∧
      IsMatching p c c.sinks (classify c (p.callGraph c).nodes).sinks
        (analyze c p).unmatchedSinks := by
  obtain ⟨hroot, hsources, hsinks⟩ := Settings.Draft.files_of_build hbuild
  obtain ⟨-, hsomeSource, hsomeSink, -⟩ := Settings.Draft.build_eq_ok_iff.mp hbuild
  have habsolute : Path.isAbsolute c.root = true := hroot ▸ Path.isAbsolute_absolute hcwd d.root
  have hresolvedSources : IsResolved c.root d.sources c.sources :=
    hsources ▸ Settings.isResolved_resolveFiles habsolute cwd d.sources
  have hresolvedSinks : IsResolved c.root d.sinks c.sinks :=
    hsinks ▸ Settings.isResolved_resolveFiles habsolute cwd d.sinks
  refine ⟨⟨hresolvedSources, hresolvedSinks⟩, ?_, ?_, ?_⟩
  · intro root sources sinks hfrom hrespells hrespells'
    have hsame := Settings.resolveFiles_eq_of_respells hcwd hbuild hfrom hrespells
    have hsame' := Settings.resolveFiles_eq_of_respells hcwd hbuild hfrom hrespells'
    -- Another spelling of a list has locations as well, so it is not empty.
    have hne : sources ≠ [] := by
      rwa [ne_eq, ← Settings.resolveFiles_eq_nil_iff cwd c.root, ← hsame,
        Settings.resolveFiles_eq_nil_iff]
    have hne' : sinks ≠ [] := by
      rwa [ne_eq, ← Settings.resolveFiles_eq_nil_iff cwd c.root, ← hsame',
        Settings.resolveFiles_eq_nil_iff]
    rw [Settings.Draft.build_with_files hbuild hne hne', ← hsame, ← hsame', ← hsources, ← hsinks]
  · intro sources sinks hperm hperm'
    have hne : sources ≠ [] := fun h => hsomeSource (h ▸ hperm).nil_eq.symm
    have hne' : sinks ≠ [] := fun h => hsomeSink (h ▸ hperm').nil_eq.symm
    refine ⟨_, Settings.Draft.build_with_files hbuild hne hne',
      fun p => analyze_with_files c p ?_ ?_⟩
    · rw [hsources, Settings.resolveFiles_eq_eraseDups, Settings.resolveFiles_eq_eraseDups]
      exact List.eraseDups_perm_of_perm (hperm.map _)
    · rw [hsinks, Settings.resolveFiles_eq_eraseDups, Settings.resolveFiles_eq_eraseDups]
      exact List.eraseDups_perm_of_perm (hperm'.map _)
  · intro p
    exact ⟨isMatching_of_nodup p c hresolvedSources.nodup,
      isMatching_of_nodup p c hresolvedSinks.nodup⟩

/-- The root directory is given in a roundabout way, and so is the first source. Spelled plainly and
repeated, it gives the same settings; with the sources in the other order, the report is the same,
since only one of them is unmatched. -/
theorem listed_files_are_locations_of_roundabout :
    let d : Settings.Draft :=
      { module := "app", root := "src/..", sources := ["a//../h.go", "b.go"],
        sinks := ["/work/./h.go"], markers := [] }
    let p : Program := ⟨[⟨"app.f", "/work/h.go", 1⟩], []⟩
    ∃ c, d.build "/work" = .ok c ∧ c.sources = ["/work/h.go", "/work/b.go"] ∧
      { d with sources := ["h.go", "b.go", "h.go"] }.build "/work" = .ok c ∧
      "/work/b.go" ∈ (analyze c p).unmatchedSources ∧
      ∃ c', { d with sources := ["b.go", "a//../h.go"] }.build "/work" = .ok c' ∧
        (analyze c p).SameUpToOrder (analyze c' p) := by
  intro d p
  let c : Settings :=
    ⟨"app", "/work", ["/work/h.go", "/work/b.go"], ["/work/h.go"], [], true, .file⟩
  have hbuild : d.build "/work" = .ok c := by
    have hroot : Path.absolute "/work" "src/.." = "/work" := by decide +kernel
    have hsources : Settings.resolveFiles "/work" "/work" d.sources =
        ["/work/h.go", "/work/b.go"] := by decide +kernel
    have hsinks : Settings.resolveFiles "/work" "/work" d.sinks = ["/work/h.go"] := by
      decide +kernel
    rw [Settings.Draft.build_eq_ok_iff]
    refine ⟨by decide +kernel, by decide, by decide, [], rfl, ?_⟩
    simp only [d, c, hroot] at hsources hsinks ⊢
    rw [hsources, hsinks]
  have hrespells : Relation.EqvGen (Respells d.root) d.sources ["h.go", "b.go", "h.go"] := by
    have hplace : Path.normalize (Path.join d.root "a//../h.go") =
        Path.normalize (Path.join d.root "h.go") := by
      decide +kernel
    have hspelling : Respells d.root d.sources ["h.go", "b.go"] := .spelling [] ["b.go"] hplace
    have hrepetition : Respells d.root ["h.go", "b.go"] ["h.go", "b.go", "h.go"] :=
      .repetition ["h.go", "b.go"] [] List.mem_cons_self
    exact .trans _ _ _ (.rel _ _ hspelling) (.rel _ _ hrepetition)
  obtain ⟨-, hspelled, hreordered, hmatching⟩ :=
    listed_files_are_locations (by decide +kernel) hbuild
  refine ⟨c, hbuild, rfl, ?_, ?_, ?_⟩
  · exact hspelled d.root _ _ (.inl rfl) hrespells (.refl _)
  · rw [(hmatching p).1.mem_unmatched_iff]
    refine ⟨.tail _ (.head _), ?_⟩
    intro name f hf
    have hmem := (Program.retained?_eq_some hf).1
    rw [List.mem_singleton.mp hmem]
    decide
  · obtain ⟨c', hbuild', hreport⟩ :=
      hreordered ["b.go", "a//../h.go"] d.sinks (List.Perm.swap _ _ _) (.refl _)
    exact ⟨c', hbuild', hreport p⟩

end CallReach
