import CallReach.Graph.Classify
import CallReach.Json.Program
import CallReach.Proofs.AnalysisCorrect
import CallReach.Proofs.PathResolution

/-!
# Files that are listed

The files of the settings are resolved against the root directory, and a function is a source or a
sink if its own file is one of the results, letter for letter. The files in a document are resolved
in another place and in another way: those that are relative become canonical paths, and those that
are absolute stay as they are written. So a file that is spelled in the same way on both sides is
found if it is relative, but if it is absolute, only where it is spelled in its canonical form.

## Key results

- `Settings.Draft.build_eq_ok_iff`: what settings are built from a draft
- `Settings.resolveFiles_eq_eraseDups`, `Settings.mem_resolveFiles_iff`: the files of built settings
- `mem_unmatchedIn_iff`: which files are reported as unmatched
- `spelled_alike_matches_iff`: when a file that is spelled in the same way on both sides is found
- `spelled_alike_not_matched_of_dot`: a file with a dot in its absolute path that is not found
-/

namespace CallReach

namespace Settings

/-- `build` accepts a draft that names a module, sources and sinks, and whose markers are
patterns. -/
theorem Draft.build_eq_ok_iff {d : Draft} {cwd : String} {c : Settings} :
    d.build cwd = .ok c ↔ Text.trim d.module ≠ "" ∧ d.sources ≠ [] ∧ d.sinks ≠ [] ∧
      ∃ markers, d.markers.mapM Marker.parse = .ok markers ∧
        c = { module := d.module
              root := Path.absolute cwd d.root
              sources := resolveFiles cwd (Path.absolute cwd d.root) d.sources
              sinks := resolveFiles cwd (Path.absolute cwd d.root) d.sinks
              markers
              linkClosures := d.linkClosures
              granularity := d.granularity } := by
  unfold Draft.build
  simp only [bind, Except.bind, throw, throwThe, MonadExceptOf.throw, pure, Except.pure]
  -- The checks in their order, each of which may end the building.
  by_cases hmodule : Text.trim d.module = ""
  · simp [hmodule]
  by_cases hsources : d.sources = []
  · simp [hmodule, hsources]
  by_cases hsinks : d.sinks = []
  · simp [hmodule, hsources, hsinks]
  cases hmarkers : d.markers.mapM Marker.parse with
  | error e => simp [hmodule, hsources, hsinks]
  | ok markers =>
    simp only [hmodule, hsources, hsinks, if_false, List.isEmpty_iff, Except.ok.injEq, ne_eq,
      not_false_eq_true, true_and, exists_eq_left']
    exact eq_comm

/-- `Path.same` compares components; absolute forms are canonical, so that their texts are
compared. -/
private theorem any_same_iff_mem {cwd path : String} {paths : List String}
    (h : ∀ q ∈ paths, Path.normalize q = q) :
    paths.any (Path.same (Path.absolute cwd path)) = true ↔ Path.absolute cwd path ∈ paths := by
  have hcanonical := Path.normalize_absolute cwd path
  rw [List.any_eq_true]
  constructor
  · rintro ⟨q, hq, hsame⟩
    rw [(Path.same_iff_of_canonical hcanonical (h q hq)).mp hsame]
    exact hq
  · intro hmem
    exact ⟨_, hmem, (Path.same_iff_of_canonical hcanonical hcanonical).mpr rfl⟩

/-- `resolveFiles` gives the canonical absolute paths of the files, without those that came
before. -/
theorem resolveFiles_eq_eraseDups (cwd root : String) (files : List String) :
    resolveFiles cwd root files =
      (files.map fun file => Path.absolute cwd (Path.join root file)).eraseDups := by
  unfold resolveFiles
  -- By induction from the end, as the loop adds files there.
  induction files using List.reverseRecOn with
  | nil => rfl
  | append_singleton files file ih =>
    have hcanonical :
        ∀ q ∈ (files.map fun file => Path.absolute cwd (Path.join root file)).eraseDups,
          Path.normalize q = q := by
      intro q hq
      obtain ⟨other, -, rfl⟩ := List.mem_map.mp (List.mem_eraseDups.mp hq)
      exact Path.normalize_absolute cwd _
    rw [List.foldl_append, ih, List.map_append, List.map_singleton, List.eraseDups_concat]
    simp only [List.foldl_cons, List.foldl_nil, any_same_iff_mem hcanonical, List.mem_eraseDups]

/-- `resolveFiles` gives the absolute forms of the files. -/
theorem mem_resolveFiles_iff {cwd root path : String} {files : List String} :
    path ∈ resolveFiles cwd root files ↔
      ∃ file ∈ files, Path.absolute cwd (Path.join root file) = path := by
  rw [resolveFiles_eq_eraseDups, List.mem_eraseDups, List.mem_map]

end Settings

/-- `unmatchedIn` lists a file exactly if no function is declared in it. -/
theorem mem_unmatchedIn_iff {nodes : Std.TreeMap String Function} (hn : Named nodes)
    {files : List String} {file : String} :
    file ∈ unmatchedIn nodes files ↔
      file ∈ files ∧ ∀ (name : String) (f : Function), nodes[name]? = some f → f.file ≠ file := by
  simp only [unmatchedIn, List.mem_filter, Bool.not_eq_true', List.any_eq_false, decide_eq_true_eq,
    mem_values_iff hn]
  refine and_congr_right fun _ => ⟨?_, ?_⟩
  · intro h name f hf
    obtain rfl := hn name f hf
    exact h f hf
  · intro h f hf
    exact h f.name f hf

/-! ## The two resolutions -/

/-- A file of a document and the same file in a list become the same path: it is relative, or it is
spelled in its canonical form. -/
def Path.ResolvedAlike (file : String) : Prop :=
  isAbsolute file = true → normalize file = file

instance (file : String) : Decidable (Path.ResolvedAlike file) :=
  inferInstanceAs (Decidable (_ → _))

/-- `parse` makes a document that holds a program that program, with its files seen from the root
directory. -/
theorem Program.parse_of_program? {content : String} {document : Program}
    (h : (Json.parse? content).bind Json.program? = some document) (origin root : String) :
    Program.parse content origin root =
      .ok { document with functions := document.functions.map (·.rooted root) } := by
  unfold Program.parse
  rw [h]

/-- `rooted` makes of the file in a document what `resolveFiles` makes of it exactly if
`ResolvedAlike` holds. -/
private theorem Function.file_rooted_eq_iff {f : Function} (hfile : f.file ≠ "") (root : String) :
    (f.rooted root).file = Path.normalize (Path.join root f.file) ↔ Path.ResolvedAlike f.file := by
  unfold Function.rooted Path.ResolvedAlike
  by_cases habsolute : Path.isAbsolute f.file = true
  · -- `Path.join` leaves an absolute path as it is; the list makes it canonical all the same.
    have hjoin : Path.join root f.file = f.file := if_pos habsolute
    simp only [habsolute, hjoin, Bool.not_true, Bool.and_false, Bool.false_eq_true, if_false,
      forall_const]
    exact eq_comm
  · simp [habsolute, hfile]

private theorem Function.file_ne_of_retained {c : Settings} {f : Function}
    (h : f.retention c = .retained) : f.file ≠ "" := by
  intro hfile
  have hposition : f.hasPosition = false := by simp [Function.hasPosition, hfile]
  simp [Function.retention, hposition] at h

/-- `rooted` gives no file to a function that has none. -/
theorem Function.file_ne_of_rooted {f : Function} {root : String} (h : (f.rooted root).file ≠ "") :
    f.file ≠ "" := by
  intro hfile
  simp [Function.rooted, hfile] at h

private theorem Settings.resolveFiles_singleton {root : String}
    (hroot : Path.isAbsolute root = true) (cwd file : String) :
    Settings.resolveFiles cwd (Path.absolute cwd root) [file] =
      [Path.normalize (Path.join root file)] := by
  rw [← Path.absolute_join_absolute hroot cwd file]
  simp [Settings.resolveFiles]

/-- `declaredIn` finds a function in a list that holds its file only, if both resolutions agree on
the file; then `unmatchedIn` is empty. -/
private theorem declaredIn_and_unmatchedIn_of_rooted {nodes : Std.TreeMap String Function}
    (hn : Named nodes) {root : String} {f : Function} (hfile : f.file ≠ "")
    (hf : nodes[f.name]? = some (f.rooted root)) :
    (f.name ∈ declaredIn nodes [Path.normalize (Path.join root f.file)] ↔
      Path.ResolvedAlike f.file) ∧
      (Path.ResolvedAlike f.file →
        unmatchedIn nodes [Path.normalize (Path.join root f.file)] = []) := by
  have hiff := Function.file_rooted_eq_iff hfile root
  constructor
  · rw [mem_declaredIn_iff, hf]
    simp only [Option.some.injEq, exists_eq_left', List.mem_singleton]
    exact hiff
  · intro halike
    rw [List.eq_nil_iff_forall_not_mem]
    intro path hpath
    obtain ⟨hlisted, hnone⟩ := (mem_unmatchedIn_iff hn).mp hpath
    apply hnone f.name (f.rooted root) hf
    rw [hiff.mpr halike, List.mem_singleton.mp hlisted]

/-- **A file that is spelled in the same way in a document and in a list is found exactly if it is
relative or canonical.** The root directory is absolute and is the same on both sides, and the
function is the one that its name stands for in the module. The list holds nothing else, so that a
file that is found leaves nothing unmatched. -/
theorem spelled_alike_matches_iff {content origin cwd : String} {document : Program} {f : Function}
    {d : Settings.Draft} {c : Settings} (hroot : Path.isAbsolute d.root = true)
    (hdocument : (Json.parse? content).bind Json.program? = some document)
    (hf : f ∈ document.functions) (hbuild : d.build cwd = .ok c) :
    ∃ p, Program.parse content origin d.root = .ok p ∧ f.rooted d.root ∈ p.functions ∧
      ((Module.ofProgram c p).find? f.name = some (f.rooted d.root) →
        let k := classify c (Module.ofProgram c p).nodes
        (d.sources = [f.file] → (f.name ∈ k.sources ↔ Path.ResolvedAlike f.file) ∧
          (Path.ResolvedAlike f.file → k.unmatchedSources = [])) ∧
        (d.sinks = [f.file] → (f.name ∈ k.sinks ↔ Path.ResolvedAlike f.file) ∧
          (Path.ResolvedAlike f.file → k.unmatchedSinks = []))) := by
  refine ⟨_, Program.parse_of_program? hdocument origin d.root, List.mem_map_of_mem hf, ?_⟩
  intro hkept
  -- The function stands for its name in the module, so it has been retained and has a file.
  have hretained := hkept
  rw [Module.find?, Module.ofProgram_getElem?] at hretained
  have hfile : f.file ≠ "" :=
    Function.file_ne_of_rooted
      (Function.file_ne_of_retained (Program.retained?_eq_some hretained).2.2)
  have hlist := declaredIn_and_unmatchedIn_of_rooted (Module.named_ofProgram c _) hfile hkept
  obtain ⟨-, -, -, markers, -, rfl⟩ := Settings.Draft.build_eq_ok_iff.mp hbuild
  constructor
  · intro hsources
    simp only [classify, hsources, Settings.resolveFiles_singleton hroot]
    exact hlist
  · intro hsinks
    simp only [classify, hsinks, Settings.resolveFiles_singleton hroot]
    exact hlist

/-- A relative file that goes up and down again is found as a source and as a sink. -/
theorem spelled_alike_matches_of_relative :
    let file := "a//.././h.go"
    let content :=
      "\x7b\"functions\": [\x7b\"name\": \"app.f\", \"file\": \"" ++ file ++
      "\", \"line\": 1\x7d]\x7d"
    let d : Settings.Draft :=
      { module := "app", root := "/work", sources := [file], sinks := [file], markers := [] }
    ∃ c p, d.build "/" = .ok c ∧ Program.parse content "model.json" d.root = .ok p ∧
      (Module.ofProgram c p).find? "app.f" = some ⟨"app.f", "/work/h.go", 1⟩ ∧
      let k := classify c (Module.ofProgram c p).nodes
      "app.f" ∈ k.sources ∧ k.unmatchedSources = [] ∧ "app.f" ∈ k.sinks ∧
      k.unmatchedSinks = [] := by
  intro file content d
  let f : Function := ⟨"app.f", file, 1⟩
  let c : Settings := ⟨"app", "/work", ["/work/h.go"], ["/work/h.go"], [], true, .file⟩
  let p : Program := ⟨[⟨"app.f", "/work/h.go", 1⟩], []⟩
  have hdocument : (Json.parse? content).bind Json.program? = some ⟨[f], []⟩ := by decide +kernel
  have hrooted : f.rooted d.root = ⟨"app.f", "/work/h.go", 1⟩ := by decide +kernel
  have hdirectory : Path.absolute "/" "/work" = "/work" := by decide +kernel
  have hfiles : Settings.resolveFiles "/" "/work" [file] = ["/work/h.go"] := by decide +kernel
  have hbuild : d.build "/" = .ok c := by
    rw [Settings.Draft.build_eq_ok_iff]
    refine ⟨by decide +kernel, by decide, by decide, [], rfl, ?_⟩
    simp only [d, c, hdirectory, hfiles]
  have hkept : (Module.ofProgram c p).find? "app.f" = some (f.rooted d.root) := by
    rw [Module.find?, Module.ofProgram_getElem?]
    decide +kernel
  obtain ⟨q, hparse, -, hmatches⟩ :=
    spelled_alike_matches_iff (by decide +kernel) hdocument (List.mem_singleton_self f) hbuild
  have hq : q = p := by
    rw [Program.parse_of_program? hdocument] at hparse
    simp only [List.map_cons, List.map_nil, hrooted] at hparse
    exact (Except.ok.inj hparse).symm
  subst hq
  have halike : Path.ResolvedAlike f.file := by decide +kernel
  obtain ⟨hsources, hsinks⟩ := hmatches hkept
  exact ⟨c, p, hbuild, hparse, by rw [hkept, hrooted], (hsources rfl).1.mpr halike,
    (hsources rfl).2 halike, (hsinks rfl).1.mpr halike, (hsinks rfl).2 halike⟩

/-- A function whose file is absolute and has a dot in its path is no source and no sink, although
the file is listed in just that spelling: the canonical form of the file is reported as
unmatched. -/
theorem spelled_alike_not_matched_of_dot :
    let file := "/work/./h.go"
    let content :=
      "\x7b\"functions\": [\x7b\"name\": \"app.f\", \"file\": \"" ++ file ++
      "\", \"line\": 1\x7d]\x7d"
    let d : Settings.Draft :=
      { module := "app", root := "/work", sources := [file], sinks := [file], markers := [] }
    ((d.build "/").toOption.bind fun c =>
      (Program.parse content "model.json" d.root).toOption.map fun p =>
      let k := classify c (Module.ofProgram c p).nodes
      ((Module.ofProgram c p).find? "app.f", k.sources, k.unmatchedSources, k.sinks,
        k.unmatchedSinks)) =
      some (some ⟨"app.f", file, 1⟩, [], ["/work/h.go"], [], ["/work/h.go"]) := by
  decide +kernel

end CallReach
