import CallReach.Proofs.ListedFiles
import CallReach.Proofs.PathOrder
import CallReach.Provider

/-!
# Reports on packages

The name of a package is spelled with underscores in two places, once in front of the names of its
functions and once for the module that an analysis stays in. Its files are named by walking down
from the root directory, and those of the settings by resolving paths. Here these agree: in a
package whose files can all be read, no function is left out for want of a position or of the module
in its name, and a file is found under every spelling of its path.

## Key results

- `FileTree.packageName_eq`: the name of a package
- `FileTree.exists_gather`: the files of a directory can be listed
- `FileTree.exists_packageUnits`: a package whose files parse can be read
- `Source.link_isInside`: the functions of a package have positions and belong to the module of its
  name
- `Source.exists_source_in_file_iff`: which sources of a report are in a file of the package
- `package_report`: what the report on a package says
-/

namespace CallReach

/-! ## The files of a package -/

/-- `mapM` succeeds on a list if every item does. Where an item can be read off its result, it
stands at the place of the result. -/
private theorem exists_mapM_eq_ok {ε α β : Type} {f : α → Except ε β} {key : β → α} {xs : List α}
    (h : ∀ x ∈ xs, ∃ y, f x = .ok y ∧ key y = x) :
    ∃ ys, xs.mapM f = .ok ys ∧ ys.map key = xs ∧ ∀ y ∈ ys, f (key y) = .ok y := by
  induction xs with
  | nil => exact ⟨[], rfl, rfl, by simp⟩
  | cons x xs ih =>
    obtain ⟨y, hy, hkey⟩ := h x List.mem_cons_self
    obtain ⟨ys, hys, hkeys, hall⟩ := ih fun x' hx' => h x' (List.mem_cons_of_mem x hx')
    refine ⟨y :: ys, ?_, ?_, ?_⟩
    · simp only [List.mapM_cons, hy, hys, bind, Except.bind, pure, Except.pure]
    · rw [List.map_cons, hkey, hkeys]
    · rw [List.forall_mem_cons, hkey]
      exact ⟨hy, hall⟩

namespace FileTree

variable {t : FileTree} {root name : String}

/-- The name that a package has been given: that in its manifest, or that of its directory if the
manifest has none or there is no manifest. -/
def PackageNamed (t : FileTree) (root name : String) : Prop :=
  ∃ m, t.manifest root = .ok m ∧
    (m.bind manifestName? = some name ∨ m.bind manifestName? = none ∧
      Path.fileName? root = some name)

/-- `packageName` spells the name that the package has been given. -/
theorem packageName_eq (h : t.PackageNamed root name) :
    t.packageName root = .ok (packageSpelling name) := by
  obtain ⟨m, hm, hname⟩ := h
  simp only [packageName, hm, bind, Except.bind, pure, Except.pure]
  rcases hname with hmanifest | ⟨hmanifest, hdirectory⟩
  · rw [hmanifest]
  · rw [hmanifest, hdirectory]

private theorem exists_locate (h : t.isDirectory root = true) :
    ∃ place, t.locate root = .ok place := by
  cases hlocate : t.locate root with
  | ok place => exact ⟨place, rfl⟩
  | error e => simp [isDirectory, lookup, hlocate, bind, Except.bind] at h

/-- `gather` lists the sources of a directory. -/
theorem exists_gather (h : t.isDirectory root = true) :
    ∃ files, t.gather (t.sourceRoot root) = .ok files := by
  have hsource : t.isDirectory (t.sourceRoot root) = true := by
    unfold sourceRoot
    dsimp only
    split
    · assumption
    · exact h
  obtain ⟨place, hplace⟩ := exists_locate hsource
  unfold gather
  rw [hplace]
  exact ⟨_, rfl⟩

private theorem isAbsolute_sourceRoot (t : FileTree) (hroot : Path.isAbsolute root = true) :
    Path.isAbsolute (t.sourceRoot root) = true := by
  unfold sourceRoot
  dsimp only
  split
  · exact Path.isAbsolute_join_of_absolute hroot _
  · exact hroot

/-- `gather` lists absolute paths below an absolute path, as names are joined to it one by one. -/
private theorem isAbsolute_of_mem_gather {excludes files : List String} {path : String}
    (hroot : Path.isAbsolute root = true) (hfiles : t.gather root excludes = .ok files)
    (hpath : path ∈ files) : Path.isAbsolute path = true := by
  unfold gather at hfiles
  split at hfiles
  · cases hfiles
  · cases hfiles
    obtain ⟨v, -, rfl⟩ := List.mem_map.mp ((Path.sort_perm _).mem_iff.mp hpath)
    apply List.foldlRecOn (motive := fun path => Path.isAbsolute path = true)
      v.names Path.join hroot
    intro base hbase name _
    exact Path.isAbsolute_join_of_absolute hbase name

/-- What is read from one file of a package whose sources are in `dir`. -/
def readUnit (t : FileTree) (dir path : String) : Except Failure Source.SourceUnit := do
  Source.SourceUnit.parse path (relativeTo dir path) (← t.readFile path)

private theorem exists_readUnit {text : String} {source : Source.SourceFile} (dir : String)
    {path : String} (htext : t.readFile path = .ok text)
    (hsource : Source.SourceFile.parse text = .ok source) :
    ∃ u, t.readUnit dir path = .ok u ∧ u.file = path := by
  simp only [readUnit, htext, bind, Except.bind, Source.SourceUnit.parse, hsource]
  exact ⟨_, rfl, rfl⟩

private theorem eq_of_readUnit {dir : String} {u v : Source.SourceUnit}
    (hu : t.readUnit dir u.file = .ok u) (hv : t.readUnit dir v.file = .ok v)
    (hfile : u.file = v.file) : u = v := by
  rw [hfile, hv] at hu
  exact (Except.ok.inj hu).symm

/-- `packageUnits` reads the listed files one after the other. -/
private theorem packageUnits_eq {files : List String} (hdirectory : t.isDirectory root = true)
    (hfiles : t.gather (t.sourceRoot root) = .ok files) :
    t.packageUnits root = files.mapM (t.readUnit (t.sourceRoot root)) := by
  simp only [packageUnits, hdirectory, hfiles, Except.mapError]
  rfl

/-- `packageUnits` gives one unit for each file, in order, if all files can be read and parsed. -/
theorem exists_packageUnits {files : List String} (hdirectory : t.isDirectory root = true)
    (hfiles : t.gather (t.sourceRoot root) = .ok files)
    (hparse : ∀ path ∈ files, ∃ text source, t.readFile path = .ok text ∧
      Source.SourceFile.parse text = .ok source) :
    ∃ units, t.packageUnits root = .ok units ∧ units.map (·.file) = files ∧
      ∀ u ∈ units, t.readUnit (t.sourceRoot root) u.file = .ok u := by
  have heach : ∀ path ∈ files, ∃ u, t.readUnit (t.sourceRoot root) path = .ok u ∧
      u.file = path := by
    intro path hpath
    obtain ⟨text, source, htext, hsource⟩ := hparse path hpath
    exact exists_readUnit _ htext hsource
  rw [packageUnits_eq hdirectory hfiles]
  exact exists_mapM_eq_ok heach

end FileTree

/-! ## The functions of a package -/

namespace Source

/-- The function that a body of a file becomes. -/
def Body.function (b : Body) (package file : String) : Function :=
  { name := packageQualified package b.path, file, line := b.line }

private theorem mem_link_functions_iff {package : String} {units : List SourceUnit} {f : Function} :
    f ∈ (link package units).functions ↔
      ∃ u ∈ units, ∃ b ∈ u.bodies, b.function package u.file = f := by
  simp only [link, List.mem_flatMap, List.mem_map, Body.function]

end Source

private theorem Text.contains_append (text more : String) :
    Text.contains (text ++ more) text = true := by
  rw [Text.contains_iff_infix, String.toList_append]
  exact (List.prefix_append _ _).isInfix

/-- All functions of the program have a position and belong to the module, so that a function is
retained unless its file is generated. -/
def Program.IsInside (p : Program) (c : Settings) : Prop :=
  ∀ f ∈ p.functions, f.retention c = if c.isGenerated f.file then .generated else .retained

namespace Program.IsInside

variable {p : Program} {c : Settings}

/-- `counts` has nothing unresolved and nothing outside the module. -/
private theorem counts_eq_zero (h : p.IsInside c) :
    (Module.counts c p).unresolved = 0 ∧ (Module.counts c p).outsideModule = 0 := by
  have hnone : ∀ r : Retention, r ≠ .generated → r ≠ .retained →
      (p.functions.filter (·.retention c = r)).length = 0 := by
    intro r hgenerated hretained
    rw [List.length_eq_zero_iff, List.filter_eq_nil_iff]
    intro f hf hr
    rw [decide_eq_true_eq, h f hf] at hr
    split at hr
    · exact hgenerated hr.symm
    · exact hretained hr.symm
  rw [Module.counts_eq]
  exact ⟨hnone .unresolved (by decide) (by decide), hnone .outsideModule (by decide) (by decide)⟩

/-- `retained?` gives a function for its name if its file is not generated, and those of all
functions before it with the same name are. -/
theorem retained?_eq_some (h : p.IsInside c) {front rest : List Function} {f : Function}
    (hp : p.functions = front ++ f :: rest) (hgenerated : c.isGenerated f.file = false)
    (hfirst : ∀ g ∈ front, g.name = f.name → c.isGenerated g.file = true) :
    p.retained? c f.name = some f := by
  have hf : f.retention c = .retained := by
    rw [h f (by rw [hp]; simp), hgenerated]
    rfl
  apply Program.retained?_eq_some_of_first hp hf
  intro g hg hsame
  rw [h g (by rw [hp]; simp [hg]), hfirst g hg hsame]
  simp

end Program.IsInside

/-- `link` gives functions positions, and puts the package in front of their names. -/
theorem Source.link_isInside {c : Settings} {units : List SourceUnit}
    (hunits : ∀ u ∈ units, u.file ≠ "") : (link c.module units).IsInside c := by
  intro f hf
  obtain ⟨u, hu, b, -, rfl⟩ := mem_link_functions_iff.mp hf
  have hposition : (b.function c.module u.file).hasPosition = true := by
    simp [Function.hasPosition, Body.function, Body.line, hunits u hu]
  have hname : Text.contains (b.function c.module u.file).name c.module = true := by
    show Text.contains (c.module ++ "::" ++ b.path) c.module = true
    rw [String.append_assoc]
    exact Text.contains_append _ _
  simp [Function.retention, hposition, hname]

/-! ## The report -/

/-- `report` on a package is `analyze` on the program that its units are linked to. -/
private theorem Provider.exists_report_package {t : FileTree} {c : Settings} {name : String}
    {units : List Source.SourceUnit} (hname : t.packageName c.root = .ok name)
    (hunits : t.packageUnits c.root = .ok units) :
    ∃ log, (Provider.package none).report t c =
      .ok (analyze ((Provider.package none).settings c) (Source.link name units), log) := by
  simp only [report, load, loadPackage, Option.elim, hname, hunits, bind, Except.bind, pure,
    Except.pure]
  exact ⟨_, rfl⟩

/-- `analyze` reports the retained bodies of a listed file as sources, if no other unit is read from
it. -/
theorem Source.exists_source_in_file_iff {c : Settings} {package : String} {units : List SourceUnit}
    {u : SourceUnit} (hu : u ∈ units) (hlisted : u.file ∈ c.sources)
    (honly : ∀ v ∈ units, v.file = u.file → v = u) {f : Function} :
    (∃ e ∈ (analyze c (link package units)).sources, e.source = f) ∧ f.file = u.file ↔
      ∃ b ∈ u.bodies, b.function package u.file = f ∧
        (link package units).retained? c f.name = some f := by
  rw [exists_mem_sources_iff]
  constructor
  · intro h
    obtain ⟨⟨hf, -⟩, hfile⟩ := h
    -- The function comes from some unit, which is the one of the file.
    obtain ⟨v, hv, b, hb, rfl⟩ := mem_link_functions_iff.mp (Program.retained?_eq_some hf).1
    have hsame : v = u := honly v hv hfile
    subst hsame
    exact ⟨b, hb, rfl, hf⟩
  · intro h
    obtain ⟨b, hb, rfl, hf⟩ := h
    exact ⟨⟨hf, hlisted⟩, rfl⟩

/-- `unmatchedSources` does not list a file in which a retained function is declared. -/
private theorem not_mem_unmatchedSources {c : Settings} {p : Program} {f : Function}
    (hf : p.retained? c f.name = some f) : f.file ∉ (analyze c p).unmatchedSources := by
  intro hunmatched
  have hnone := ((mem_unmatchedIn_iff (callGraph_named p c)).mp hunmatched).2
  exact hnone f.name f (by rw [callGraph_getElem?, hf]) rfl

/-- `build` in an absolute directory gives an absolute root, and the canonical form of every source
as it is seen from there. -/
private theorem Settings.Draft.root_and_sources_of_build {d : Draft} {c : Settings} {cwd : String}
    (hcwd : Path.isAbsolute cwd = true) (hbuild : d.build cwd = .ok c) :
    c.module = d.module ∧ Path.isAbsolute c.root = true ∧
      ∀ q ∈ d.sources, Path.normalize (Path.join c.root q) ∈ c.sources := by
  obtain ⟨-, -, -, markers, -, rfl⟩ := build_eq_ok_iff.mp hbuild
  have hroot := Path.isAbsolute_absolute hcwd d.root
  refine ⟨rfl, hroot, ?_⟩
  intro q hq
  refine mem_resolveFiles_iff.mpr ⟨q, hq, ?_⟩
  rw [Path.absolute, if_pos (Path.isAbsolute_join_of_absolute hroot q)]

private theorem eq_ok_of_toOption {ε α : Type} {x : Except ε α} {a : α} (h : x.toOption = some a) :
    x = .ok a := by
  cases x with
  | ok b => rw [Option.some.inj h]
  | error e => cases h

/-- **The report on a package.** The settings are built in the working directory of the tree, name
the package at their root as the module, and all its files can be read and parsed. Then the package
is reported on. No function is unresolved or outside the module: a function is retained unless its
file is generated or another function before it stands for its name. If the canonical form of a path
in the list of sources is one of the files, then the sources in this file are its retained bodies,
and the file is not unmatched if there are any. -/
theorem package_report {t : FileTree} {d : Settings.Draft} {c : Settings}
    (hbuild : d.build t.cwd.text = .ok c) (hdirectory : t.isDirectory c.root = true)
    (hname : t.PackageNamed c.root d.module)
    (hparse : ∀ files path, t.gather (t.sourceRoot c.root) = .ok files → path ∈ files →
      ∃ text source, t.readFile path = .ok text ∧ Source.SourceFile.parse text = .ok source) :
    ∃ files units r log, t.gather (t.sourceRoot c.root) = .ok files ∧
      t.packageUnits c.root = .ok units ∧ units.map (·.file) = files ∧
      (Provider.package none).report t c = .ok (r, log) ∧
      let s := (Provider.package none).settings c
      let package := FileTree.packageSpelling d.module
      let p := Source.link package units
      r.filter.totalFunctions = p.functions.length ∧ r.filter.unresolved = 0 ∧
      r.filter.outsideModule = 0 ∧
      (∀ front f rest, p.functions = front ++ f :: rest → c.isGenerated f.file = false →
        (∀ g ∈ front, g.name = f.name → c.isGenerated g.file = true) →
          p.retained? s f.name = some f) ∧
      ∀ u ∈ units, ∀ q ∈ d.sources, Path.normalize (Path.join c.root q) = u.file →
        (∀ f, (∃ e ∈ r.sources, e.source = f) ∧ f.file = u.file ↔
          ∃ b ∈ u.bodies, b.function package u.file = f ∧ p.retained? s f.name = some f) ∧
        ((∃ b ∈ u.bodies, p.retained? s (b.function package u.file).name =
          some (b.function package u.file)) → u.file ∉ r.unmatchedSources) := by
  obtain ⟨hmodule, hroot, hsources⟩ :=
    Settings.Draft.root_and_sources_of_build t.cwd.isAbsolute_text hbuild
  obtain ⟨files, hfiles⟩ := FileTree.exists_gather hdirectory
  obtain ⟨units, hunits, hmap, hread⟩ :=
    FileTree.exists_packageUnits hdirectory hfiles fun path => hparse files path hfiles
  obtain ⟨log, hreport⟩ := Provider.exists_report_package (FileTree.packageName_eq hname) hunits
  refine ⟨files, units, _, log, hfiles, hunits, hmap, hreport, ?_⟩
  intro s package p
  -- The module of the settings is spelled as the package is.
  have hspelling : s.module = package := congrArg FileTree.packageSpelling hmodule
  have hnonempty : ∀ u ∈ units, u.file ≠ "" := by
    intro u hu hempty
    have hmem : u.file ∈ files := hmap ▸ List.mem_map_of_mem hu
    have habsolute := FileTree.isAbsolute_of_mem_gather (t.isAbsolute_sourceRoot hroot) hfiles hmem
    rw [hempty] at habsolute
    exact absurd habsolute (by decide)
  have hinside : p.IsInside s := by
    show (Source.link package units).IsInside s
    rw [← hspelling]
    exact Source.link_isInside hnonempty
  obtain ⟨hunresolved, houtside⟩ := hinside.counts_eq_zero
  have htotal : (Module.counts s p).totalFunctions = p.functions.length :=
    congrArg FilterCounts.totalFunctions (Module.counts_eq s p)
  refine ⟨htotal, hunresolved, houtside, ?_, ?_⟩
  · intro front f rest hp hgenerated hfirst
    exact hinside.retained?_eq_some hp hgenerated hfirst
  · intro u hu q hq hpath
    have hlisted : u.file ∈ s.sources := hpath ▸ hsources q hq
    have honly : ∀ v ∈ units, v.file = u.file → v = u := by
      intro v hv hfile
      exact FileTree.eq_of_readUnit (hread v hv) (hread u hu) hfile
    constructor
    · intro f
      exact Source.exists_source_in_file_iff hu hlisted honly
    · intro h
      obtain ⟨b, -, hf⟩ := h
      exact not_mem_unmatchedSources hf

/-- A package with a hyphen in its name, whose only file is listed in a roundabout way: the closure
in it is a source like the function around it. -/
theorem package_report_of_hyphenated :
    let manifest := "[package]\nname = \"my-app\"\n"
    let files : FileTree := FileTree.add {} ["work", "Cargo.toml"] (.file (some manifest))
    let t :=
      { files.add ["work", "src", "lib.rs"] (.file (some "fn f() \x7b || 1; \x7d")) with
        cwd := ["work"] }
    let d : Settings.Draft :=
      { module := "my-app", sources := ["src/../src/./lib.rs"], sinks := ["src/lib.rs"],
        markers := [] }
    ∃ c r log, d.build t.cwd.text = .ok c ∧ (Provider.package none).report t c = .ok (r, log) ∧
      r.filter.totalFunctions = 2 ∧ r.filter.unresolved = 0 ∧ r.filter.outsideModule = 0 ∧
      "/work/src/lib.rs" ∉ r.unmatchedSources ∧
      ∃ e ∈ r.sources, e.source = ⟨"my_app::f$1", "/work/src/lib.rs", 1⟩ := by
  intro manifest files t d
  let c : Settings :=
    ⟨"my-app", "/work", ["/work/src/lib.rs"], ["/work/src/lib.rs"], [], true, .file⟩
  have hbuild : d.build t.cwd.text = .ok c := by
    have hcwd : t.cwd.text = "/work" := by decide +kernel
    have hroot : Path.absolute "/work" "." = "/work" := by decide +kernel
    have hsources : Settings.resolveFiles "/work" "/work" ["src/../src/./lib.rs"] =
        ["/work/src/lib.rs"] := by
      decide +kernel
    have hsinks : Settings.resolveFiles "/work" "/work" ["src/lib.rs"] = ["/work/src/lib.rs"] := by
      decide +kernel
    rw [hcwd, Settings.Draft.build_eq_ok_iff]
    refine ⟨by decide +kernel, by decide, by decide, [], rfl, ?_⟩
    simp only [d, c, hroot, hsources, hsinks]
  have hname : t.PackageNamed c.root d.module := by
    have hmanifest : (t.manifest "/work").toOption.map (·.bind FileTree.manifestName?) =
        some (some "my-app") := by
      decide +kernel
    obtain ⟨m, hm, hfound⟩ := Option.map_eq_some_iff.mp hmanifest
    exact ⟨m, eq_ok_of_toOption hm, .inl hfound⟩
  have hgather : t.gather (t.sourceRoot c.root) = .ok ["/work/src/lib.rs"] :=
    eq_ok_of_toOption (by decide +kernel)
  have hparse : ∀ files path, t.gather (t.sourceRoot c.root) = .ok files → path ∈ files →
      ∃ text source, t.readFile path = .ok text ∧ Source.SourceFile.parse text = .ok source := by
    intro files path hfiles hpath
    rw [hgather] at hfiles
    cases hfiles
    obtain rfl := List.mem_singleton.mp hpath
    have hsource : (Source.SourceFile.parse "fn f() \x7b || 1; \x7d").toOption.isSome = true := by
      decide +kernel
    obtain ⟨source, hsource⟩ := Option.isSome_iff_exists.mp hsource
    exact ⟨_, source, eq_ok_of_toOption (by decide +kernel), eq_ok_of_toOption hsource⟩
  obtain ⟨-, units, r, log, -, hunits, -, hreport, htotal, hunresolved, houtside, hretained,
    hlisted⟩ := package_report hbuild (by decide +kernel) hname hparse
  let outer : Function := ⟨"my_app::f", "/work/src/lib.rs", 1⟩
  let inner : Function := ⟨"my_app::f$1", "/work/src/lib.rs", 1⟩
  have hfunctions : (Source.link (FileTree.packageSpelling d.module) units).functions =
      [outer, inner] := by
    have hlinked : (t.packageUnits "/work").toOption.map (fun units =>
        (Source.link (FileTree.packageSpelling d.module) units).functions) =
          some [outer, inner] := by
      decide +kernel
    rw [hunits] at hlinked
    exact Option.some.inj hlinked
  have hinner := hretained [outer] inner [] hfunctions rfl (by decide)
  have hmem : inner ∈ (Source.link (FileTree.packageSpelling d.module) units).functions := by
    rw [hfunctions]
    simp
  obtain ⟨u, hu, b, hb, hfunction⟩ := Source.mem_link_functions_iff.mp hmem
  have hfile : u.file = "/work/src/lib.rs" := congrArg Function.file hfunction
  have hspelled : Path.normalize (Path.join c.root "src/../src/./lib.rs") = u.file := by
    rw [hfile]
    decide +kernel
  obtain ⟨hsources, hmatched⟩ := hlisted u hu _ (List.mem_singleton_self _) hspelled
  rw [hfunctions] at htotal
  refine ⟨c, r, log, hbuild, hreport, htotal, hunresolved, houtside, ?_, ?_⟩
  · rw [← hfile]
    exact hmatched ⟨b, hb, by rw [hfunction]; exact hinner⟩
  · exact ((hsources inner).mpr ⟨b, hb, hfunction, hinner⟩).1

end CallReach
