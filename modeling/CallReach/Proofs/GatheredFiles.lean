import CallReach.Files.Gather
import CallReach.Proofs.PathLocation
import CallReach.Proofs.PathOrder

/-!
# Gathered files

Source files are gathered by a walk that passes over some directories, and what the walk comes upon
is sorted. Here the walk is left open: it may come upon entries in any order, as long as it comes
upon each one once. The files are then those that stand at or below the directory and can be arrived
at without entering a directory that is left out, and their order is that of their paths.

## Key results

- `Path.extension?_eq_some_iff`: what has an extension
- `Visit.components_path`: the path of an entry has the names that lead to it behind those of the
  directory
- `FileTree.delivers_walk`: a walk comes upon each entry once
- `Delivers.isListing`: what is gathered from a walk in whatever order
- `gather_lists_sources`: when gathering fails, and what it lists otherwise
-/

namespace CallReach

namespace Path

/-! ## Names of files -/

/-- `takeWhile` and `dropWhile` cut a list at its first `x`. -/
private theorem span_ne_iff {x : Char} {cs front rest : List Char} :
    cs.takeWhile (· ≠ x) = front ∧ cs.dropWhile (· ≠ x) = x :: rest ↔
      x ∉ front ∧ cs = front ++ x :: rest := by
  constructor
  · rintro ⟨rfl, hrest⟩
    refine ⟨?_, by rw [← hrest, List.takeWhile_append_dropWhile]⟩
    intro hmem
    exact of_decide_eq_true (List.all_eq_true.mp List.all_takeWhile x hmem) rfl
  · rintro ⟨hfront, rfl⟩
    have hall : ∀ c ∈ front, decide (c ≠ x) = true := by
      intro c hc
      exact decide_eq_true fun heq => hfront (heq ▸ hc)
    rw [List.takeWhile_append_of_pos hall, List.dropWhile_append_of_pos hall]
    simp

/-- `extension?` is what follows the last dot of the name, if the dot has something in front of
it. -/
theorem extension?_eq_some_iff {p ext : String} :
    extension? p = some ext ↔
      '.' ∉ ext.toList ∧ ∃ stem, stem ≠ "" ∧ fileName? p = some (stem ++ "." ++ ext) := by
  unfold extension?
  cases fileName? p with
  | none => simp
  | some name =>
    simp only [Option.bind_eq_bind, Option.bind_some, Option.some.injEq]
    -- The name is read from its end, so the first dot that is found is the last one.
    constructor
    · intro h
      split at h
      · cases h
      · cases h
      · rename_i hnil hone
        cases hrest : name.toList.reverse.dropWhile (· ≠ '.') with
        | nil => exact absurd hrest hnil
        | cons c stem =>
          obtain rfl : c = '.' := by
            have hhead := List.head?_dropWhile_not (· ≠ '.') name.toList.reverse
            rw [hrest] at hhead
            simpa using hhead
          obtain ⟨hdot, hname⟩ := span_ne_iff.mp ⟨rfl, hrest⟩
          have hstem : stem ≠ [] := fun heq => hone '.' (heq ▸ hrest)
          obtain rfl := Option.some.inj h
          refine ⟨by simpa using hdot, String.ofList stem.reverse, ?_, ?_⟩
          · rw [ne_eq, ← String.toList_inj]
            simpa using hstem
          · rw [← String.toList_inj, ← List.reverse_inj]
            exact hname.trans (by simp)
    · rintro ⟨hdot, stem, hstem, rfl⟩
      have hback : (stem ++ "." ++ ext).toList.reverse = ext.toList.reverse ++
          '.' :: stem.toList.reverse := by simp
      obtain ⟨htake, hdrop⟩ := span_ne_iff.mpr ⟨by simpa using hdot, hback⟩
      have hne : stem.toList.reverse ≠ [] := by
        rw [ne_eq, List.reverse_eq_nil_iff]
        exact fun heq => hstem (String.toList_inj.mp heq)
      rw [htake, hdrop]
      split
      · rename_i heq
        cases heq
      · rename_i heq
        exact absurd (List.cons.inj heq).2 hne
      · rw [List.reverse_reverse, String.ofList_toList]

/-- `components` of a relative path have a dot in front of the steps exactly if the path starts with
one. -/
private theorem components_of_relative_eq {p : String} (h : isAbsolute p = false) :
    components p = (if (Text.cutAt '/' p.toList).head? = some ['.'] then [.here] else []) ++
      steps p := by
  unfold isAbsolute at h
  unfold components steps
  cases hp : p.toList with
  | nil => rfl
  | cons c cs =>
    have hc : c ≠ '/' := by simpa [hp] using h
    obtain ⟨piece, pieces, hcut⟩ := List.exists_cons_of_ne_nil (Text.cutAt_ne_nil '/' cs)
    simp only [Text.cutAt, hc, if_false, hcut, List.head?_cons, Option.some.injEq]
    split <;> simp_all [Component.ofPiece?]

/-- `join base p` starts with the piece that `base` starts with. -/
private theorem head?_cutAt_join {base p : String} (hbase : base ≠ "") (hp : isAbsolute p = false) :
    (Text.cutAt '/' (join base p).toList).head? = (Text.cutAt '/' base.toList).head? := by
  have hne : ∀ cs, Text.cutAt '/' cs ≠ [] := Text.cutAt_ne_nil '/'
  unfold join
  rw [if_neg (by simp [hp])]
  split
  · rename_i hnone
    exact absurd (String.toList_inj.mp (List.getLast?_eq_none_iff.mp hnone)) hbase
  · rename_i hlast
    obtain ⟨front, hfront⟩ := List.getLast?_eq_some_iff.mp hlast
    rw [String.toList_append, hfront, List.append_assoc, List.singleton_append, Text.cutAt_append,
      Text.cutAt_append, List.head?_append_of_ne_nil _ (hne front),
      List.head?_append_of_ne_nil _ (hne front)]
  · have hslash : ("/" : String).toList = ['/'] := rfl
    rw [String.toList_append, String.toList_append, hslash, List.append_assoc,
      List.singleton_append, Text.cutAt_append, List.head?_append_of_ne_nil _ (hne base.toList)]

private theorem steps_of_isPlain {name : String} (h : (Component.name name).IsPlain) :
    steps name = [.name name] := by
  have hslash : '/' ∉ name.toList := h.1
  have hpiece : Component.ofPiece? name.toList = some (.name name) := h.2
  rw [steps, Text.cutAt_of_not_mem hslash]
  simp [hpiece]

/-- `join` with a name adds one component. -/
private theorem components_join {base name : String} (hbase : base ≠ "")
    (hname : (Component.name name).IsPlain) :
    components (join base name) = components base ++ [.name name] := by
  have hrelative : isAbsolute name = false := by
    have hhead : name.toList.head? ≠ some '/' := head?_text_of_isPlain hname
    simpa [isAbsolute] using hhead
  have hsteps : steps (join base name) = steps base ++ [.name name] := by
    rw [steps_join hrelative, steps_of_isPlain hname]
  have habsolute := isAbsolute_join (a := base) hrelative
  -- In front of the steps stands the same as in the directory.
  cases h : isAbsolute base with
  | true =>
    rw [components_of_absolute h, components_of_absolute (habsolute.trans h), hsteps]
    rfl
  | false =>
    rw [components_of_relative_eq h, components_of_relative_eq (habsolute.trans h), hsteps,
      head?_cutAt_join hbase hrelative, List.append_assoc]

end Path

/-- `Visit.path` has the names that lead to the entry behind those of the directory. -/
theorem Visit.components_path {root : String} (hroot : root ≠ "") {v : Visit}
    (hnames : ∀ name ∈ v.names, (Path.Component.name name).IsPlain) :
    Path.components (v.path root) = Path.components root ++ v.names.map .name := by
  obtain ⟨names, entry⟩ := v
  show Path.components (names.foldl Path.join root) = _
  -- A directory on the way is not empty either, so the lemma can be used for it again.
  induction names generalizing root with
  | nil => simp
  | cons name names ih =>
    rw [List.forall_mem_cons] at hnames
    have hcomponents := Path.components_join hroot hnames.1
    have hne : Path.join root name ≠ "" := by
      intro heq
      rw [heq] at hcomponents
      simp [Path.components, Text.cutAt] at hcomponents
    rw [List.foldl_cons, ih hne hnames.2, hcomponents, List.append_assoc]
    rfl

namespace FileTree

variable {t : FileTree} {p : Place} {excluded names : List String}

/-! ## Trees -/

/-- A tree as it can stand on a disk: names have no slash and are neither empty nor dots, and
everything stands in a directory. -/
structure WellFormed (t : FileTree) : Prop where
  plain : ∀ p ∈ t.entries, ∀ name ∈ p, (Path.Component.name name).IsPlain
  parent : ∀ p ∈ t.entries, t.entry? p.dropLast = some .directory

instance (c : Path.Component) : Decidable c.IsPlain := inferInstanceAs (Decidable (_ ∧ _))

instance (t : FileTree) : Decidable t.WellFormed :=
  decidable_of_iff (∀ p ∈ t.entries.keys, (∀ name ∈ p, (Path.Component.name name).IsPlain) ∧
      t.entry? p.dropLast = some .directory) <| by
    simp only [Std.TreeMap.mem_keys]
    exact ⟨fun h => ⟨fun p hp => (h p hp).1, fun p hp => (h p hp).2⟩,
      fun h p hp => ⟨h.plain p hp, h.parent p hp⟩⟩

private theorem mem_entries_of_entry? {e : Entry} (h : t.entry? p = some e) :
    p = [] ∨ p ∈ t.entries := by
  unfold entry? at h
  split at h
  · rename_i hempty
    exact .inl (List.isEmpty_iff.mp hempty)
  · exact .inr (Std.TreeMap.mem_iff_isSome_getElem?.mpr (by rw [h]; rfl))

/-- `enter` leads to something that is there. -/
private theorem WellFormed.isSome_of_enter (ht : t.WellFormed) {q : Place} {piece : String}
    (h : t.enter p piece = .ok q) : (t.entry? q).isSome := by
  unfold enter at h
  split at h
  · cases h
  · rename_i hdirectory
    have hp : t.entry? p = some .directory := not_not.mp hdirectory
    split at h
    · cases h
      rw [hp]
      rfl
    · split at h
      · -- The directory above is there, and above the root there is the root.
        cases h
        rcases mem_entries_of_entry? hp with rfl | hmem
        · rfl
        · rw [ht.parent p hmem]
          rfl
      · split at h
        · cases h
        · split at h
          · rename_i hsome
            cases h
            exact hsome
          · cases h

private theorem WellFormed.isSome_of_foldlM (ht : t.WellFormed) {pieces : List String}
    (hne : pieces ≠ []) {q : Place} (h : pieces.foldlM t.enter q = .ok p) :
    (t.entry? p).isSome := by
  induction pieces generalizing q with
  | nil => exact absurd rfl hne
  | cons piece pieces ih =>
    rw [List.foldlM_cons] at h
    cases hentered : t.enter q piece with
    | error e =>
      rw [hentered] at h
      cases h
    | ok r =>
      rw [hentered] at h
      cases pieces with
      | nil =>
        cases h
        exact ht.isSome_of_enter hentered
      | cons next pieces => exact ih (List.cons_ne_nil next pieces) h

/-- `locate` leads to something that is there, and the path is not empty. -/
private theorem WellFormed.isSome_of_locate (ht : t.WellFormed) {path : String}
    (h : t.locate path = .ok p) : (t.entry? p).isSome ∧ path ≠ "" := by
  have hne : pieces path ≠ [] := by simp [pieces, Text.cutAt_ne_nil]
  constructor
  · unfold locate at h
    cases hcheck : check path with
    | error e =>
      rw [hcheck] at h
      cases h
    | ok _ =>
      rw [hcheck] at h
      exact ht.isSome_of_foldlM hne h
  · rintro rfl
    cases h

/-- `pathExists` fails exactly if `locate` does. -/
private theorem WellFormed.pathExists_eq_false_iff (ht : t.WellFormed) {path : String} :
    t.pathExists path = false ↔ ∃ e, t.locate path = .error e := by
  unfold pathExists lookup
  cases hlocate : t.locate path with
  | error e => simp [bind, Except.bind, Except.isOk, Except.toBool]
  | ok q =>
    obtain ⟨entry, hentry⟩ := Option.isSome_iff_exists.mp (ht.isSome_of_locate hlocate).1
    simp [bind, Except.bind, hentry, Except.isOk, Except.toBool, pure, Except.pure]

/-! ## Walks -/

/-- None of the directories on the way down from a place is left out, and not the last one
either. -/
def Entered (t : FileTree) (p : Place) (excluded names : List String) : Prop :=
  ∀ front name, front ++ [name] <+: names → t.entry? (p ++ (front ++ [name])) = some .directory →
    name ∉ excluded

/-- What a walk from a place may come upon: everything that stands there and below, each entry once
and in any order, apart from directories that are left out and what stands in them. -/
structure Delivers (t : FileTree) (p : Place) (excluded : List String) (visits : List Visit) :
    Prop where
  once : visits.Nodup
  mem_iff : ∀ v, v ∈ visits ↔ t.entry? (p ++ v.names) = some v.entry ∧ t.Entered p excluded v.names

/-- `isOpen` decides `Entered`, by looking at the beginnings of the way. -/
private theorem isOpen_iff : t.isOpen p excluded names = true ↔ t.Entered p excluded names := by
  have hstep : ∀ front name, t.isExcluded p excluded (front ++ [name]) = true ↔
      t.entry? (p ++ (front ++ [name])) = some .directory ∧ name ∈ excluded := by
    intro front name
    simp [isExcluded]
  simp only [isOpen, List.all_eq_true, List.mem_range, Bool.not_eq_true', Bool.eq_false_iff]
  constructor
  · intro h front name hbeginning hdirectory hmem
    have hlength := hbeginning.length_le
    refine h (front ++ [name]).length (by omega) ?_
    rw [← List.prefix_iff_eq_take.mp hbeginning, hstep]
    exact ⟨hdirectory, hmem⟩
  · intro h n _ hexcluded
    -- A beginning of the way that is left out is not empty, so it has a last name.
    induction htake : names.take n using List.reverseRecOn with
    | nil =>
      rw [htake] at hexcluded
      cases hexcluded
    | append_singleton front name =>
      rw [htake, hstep] at hexcluded
      exact h front name (htake ▸ List.take_prefix n names) hexcluded.1 hexcluded.2

/-- What `below` makes of one entry of the tree. -/
private theorem listedBelow_iff {q : Place} {e : Entry} {v : Visit} :
    (if p.isPrefixOf q && p.length < q.length then some (Visit.mk (q.drop p.length) e) else none) =
      some v ↔
      (q, e) = (p ++ v.names, v.entry) ∧ v.names ≠ [] := by
  obtain ⟨names, entry⟩ := v
  simp only [Bool.and_eq_true, List.isPrefixOf_iff_prefix, decide_eq_true_eq, Prod.mk.injEq]
  constructor
  · intro h
    split at h
    · rename_i hbelow
      obtain ⟨⟨rest, rfl⟩, hlength⟩ := hbelow
      cases h
      rw [List.length_append] at hlength
      have hrest : rest.length ≠ 0 := by omega
      simpa using hrest
    · cases h
  · rintro ⟨⟨rfl, rfl⟩, hne⟩
    have hlength : names.length ≠ 0 := fun h => hne (List.length_eq_zero_iff.mp h)
    rw [if_pos ⟨List.prefix_append p names, by rw [List.length_append]; omega⟩]
    simp

/-- `below` lists everything that stands at or below a place. -/
private theorem mem_below_iff {v : Visit} :
    v ∈ t.below p ↔ t.entry? (p ++ v.names) = some v.entry := by
  obtain ⟨names, entry⟩ := v
  have hstart : Visit.mk names entry ∈ (t.entry? p).toList.map (Visit.mk []) ↔
      t.entry? p = some entry ∧ names = [] := by
    simp [eq_comm]
  rw [below, List.mem_append, hstart, List.mem_filterMap]
  simp only [listedBelow_iff, Prod.exists]
  cases names with
  | nil => simp
  | cons name names =>
    -- Below the place something can only be listed.
    have hplace : t.entry? (p ++ name :: names) = t.entries[p ++ name :: names]? := if_neg (by simp)
    rw [hplace]
    constructor
    · rintro (⟨-, h⟩ | ⟨q, e, hmem, heq, -⟩)
      · cases h
      · cases heq
        exact Std.TreeMap.mem_toList_iff_getElem?_eq_some.mp hmem
    · intro hentry
      exact .inr ⟨_, _, Std.TreeMap.mem_toList_iff_getElem?_eq_some.mpr hentry, rfl,
        List.cons_ne_nil name names⟩

/-- `below` lists nothing twice. -/
private theorem nodup_below (t : FileTree) (p : Place) : (t.below p).Nodup := by
  have hlisted : t.entries.toList.Nodup := by
    apply List.Nodup.of_map Prod.fst
    rw [Std.TreeMap.map_fst_toList_eq_keys]
    exact Std.TreeMap.nodup_keys
  rw [below, List.nodup_append]
  refine ⟨?_, ?_, ?_⟩
  · cases t.entry? p <;> simp
  · refine hlisted.filterMap ?_
    rintro ⟨q, e⟩ ⟨q', e'⟩ v hv hv'
    rw [(listedBelow_iff.mp hv).1, (listedBelow_iff.mp hv').1]
  · -- The place itself is arrived at without names, everything below with some.
    intro v hv w hw heq
    obtain ⟨e, -, rfl⟩ := List.mem_map.mp hv
    obtain ⟨⟨q, e'⟩, -, hlisted⟩ := List.mem_filterMap.mp hw
    exact (listedBelow_iff.mp hlisted).2 (by rw [← heq])

/-- `walk` comes upon every entry once. -/
theorem delivers_walk (t : FileTree) (p : Place) (excluded : List String) :
    t.Delivers p excluded (t.walk p excluded) where
  once := (t.nodup_below p).filter _
  mem_iff v := by rw [walk, List.mem_filter, mem_below_iff, isOpen_iff]

/-! ## Source files -/

/-- The source files at or below a path that leads to a place: those with the extension that can be
arrived at without entering a directory that is left out, by their paths in ascending order. -/
structure IsListing (t : FileTree) (root : String) (p : Place) (excluded files : List String) :
    Prop where
  mem_iff : ∀ path, path ∈ files ↔ ∃ names content, t.entry? (p ++ names) = some (.file content) ∧
    t.Entered p excluded names ∧ names.foldl Path.join root = path ∧
    Path.extension? path = some "rs"
  ascending : files.Pairwise Path.Before

/-- `IsListing` determines the list. -/
theorem IsListing.eq {root : String} {files files' : List String}
    (h : t.IsListing root p excluded files) (h' : t.IsListing root p excluded files') :
    files = files' :=
  Path.eq_of_ascending h.ascending h'.ascending fun path => by rw [h.mem_iff, h'.mem_iff]

/-- Names that lead to something in a `WellFormed` tree are plain. -/
private theorem WellFormed.isPlain_of_entry? (ht : t.WellFormed) {e : Entry}
    (h : t.entry? (p ++ names) = some e) :
    ∀ name ∈ names, (Path.Component.name name).IsPlain := by
  intro name hname
  rcases mem_entries_of_entry? h with hnil | hmem
  · rw [(List.append_eq_nil_iff.mp hnil).2] at hname
    cases hname
  · exact ht.plain _ hmem name (List.mem_append_right p hname)

/-- Different entries that a walk `Delivers` have different paths. -/
private theorem Delivers.nodup_components (ht : t.WellFormed) {root : String} (hroot : root ≠ "")
    {visits : List Visit} (h : t.Delivers p excluded visits) :
    (visits.map fun v => Path.components (v.path root)).Nodup := by
  refine h.once.map_on ?_
  intro v hv w hw heq
  obtain ⟨hv, -⟩ := (h.mem_iff v).mp hv
  obtain ⟨hw, -⟩ := (h.mem_iff w).mp hw
  rw [Visit.components_path hroot (ht.isPlain_of_entry? hv),
    Visit.components_path hroot (ht.isPlain_of_entry? hw), List.append_cancel_left_eq] at heq
  -- Behind the directory the paths have the names, and these lead to one entry.
  have hnames : v.names = w.names :=
    List.map_injective_iff.mpr (fun _ _ h => Path.Component.name.inj h) heq
  rw [hnames, hw] at hv
  obtain ⟨names, entry⟩ := v
  cases hnames
  cases hv
  rfl

/-- `Visit.sources` makes an `IsListing` of what a walk `Delivers`, in whatever order. -/
theorem Delivers.isListing (ht : t.WellFormed) {root : String} (hroot : root ≠ "")
    {visits : List Visit} (h : t.Delivers p excluded visits) :
    t.IsListing root p excluded (Visit.sources root visits) := by
  constructor
  case mem_iff =>
    intro path
    rw [Visit.sources, (Path.sort_perm _).mem_iff, List.mem_map]
    constructor
    · rintro ⟨⟨names, entry⟩, hv, rfl⟩
      obtain ⟨hv, hsource⟩ := List.mem_filter.mp hv
      obtain ⟨hentry, hentered⟩ := (h.mem_iff _).mp hv
      cases entry with
      | directory => cases hsource
      | file content => exact ⟨names, content, hentry, hentered, rfl, of_decide_eq_true hsource⟩
    · rintro ⟨names, content, hentry, hentered, rfl, hextension⟩
      refine ⟨⟨names, .file content⟩,
        List.mem_filter.mpr ⟨(h.mem_iff _).mpr ⟨hentry, hentered⟩, ?_⟩, rfl⟩
      exact decide_eq_true hextension
  case ascending =>
    apply Path.sort_ascending
    rw [List.map_map]
    exact (h.nodup_components ht hroot).sublist (List.filter_sublist.map _)

/-- **Gathering lists exactly the source files.** It fails exactly if the path leads nowhere.
Otherwise it lists the files with the extension at or below the path, apart from those in
directories that are left out; these are known by their names and may stand anywhere below the path,
but the directory where the walk starts is never left out, and neither are files. Every file is
listed once, in ascending order of paths, and the same list results from every order in which a walk
may come upon the entries. A name that is nothing but the extension has none. -/
theorem gather_lists_sources {t : FileTree} (ht : t.WellFormed) (root : String)
    (excludes : List String) :
    (t.pathExists root = false ↔ ∃ message, t.gather root excludes = .error message) ∧
    (∀ p, t.locate root = .ok p → ∃ files, t.gather root excludes = .ok files ∧
      t.IsListing root p (excludedNames ++ excludes) files ∧
      ∀ visits, t.Delivers p (excludedNames ++ excludes) visits →
        Visit.sources root visits = files) ∧
    ∀ path, Path.extension? path = some "rs" ↔
      ∃ stem, stem ≠ "" ∧ Path.fileName? path = some (stem ++ ".rs") := by
  refine ⟨?_, ?_, ?_⟩
  · rw [ht.pathExists_eq_false_iff]
    unfold gather
    cases t.locate root <;> simp
  · intro p hlocate
    have hroot : root ≠ "" := (ht.isSome_of_locate hlocate).2
    -- The walk that is made is one of those that may be made.
    have hlisting := (t.delivers_walk p (excludedNames ++ excludes)).isListing ht hroot
    refine ⟨_, by rw [gather, hlocate], hlisting, ?_⟩
    intro visits hvisits
    exact (hvisits.isListing ht hroot).eq hlisting
  · intro path
    rw [Path.extension?_eq_some_iff]
    simp [String.append_assoc]

/-- Seen from the working directory: a file in a directory comes before one whose name goes on with
a dash, a directory with build products and one that is left out on demand are passed over wherever
they stand, and a file that has but an extension is none. A walk the other way round finds the
same. -/
theorem gather_lists_sources_of_mixed :
    let places :=
      [["work", "a-b.rs"], ["work", "a", "b.rs"], ["work", "a", "target", "c.rs"],
        ["work", "vendor", "d.rs"], ["work", ".rs"], ["work", "notes.txt"]]
    let t : FileTree := places.foldl (fun t p => add t p (.file (some ""))) { cwd := ["work"] }
    t.WellFormed ∧ t.gather "." ["vendor"] = .ok ["./a/b.rs", "./a-b.rs"] ∧
      t.IsListing "." ["work"] (excludedNames ++ ["vendor"]) ["./a/b.rs", "./a-b.rs"] ∧
      Visit.sources "." (t.walk ["work"] (excludedNames ++ ["vendor"])).reverse =
        ["./a/b.rs", "./a-b.rs"] ∧
      ∃ message, t.gather "missing" ["vendor"] = .error message := by
  intro places t
  have ht : t.WellFormed := by decide +kernel
  obtain ⟨hmissing, -⟩ := gather_lists_sources ht "missing" ["vendor"]
  obtain ⟨-, hfound, -⟩ := gather_lists_sources ht "." ["vendor"]
  have hlocate : t.locate "." = .ok ["work"] := by decide +kernel
  obtain ⟨files, hgather, hlisting, hsame⟩ := hfound ["work"] hlocate
  have hfiles : (t.gather "." ["vendor"]).toOption = some ["./a/b.rs", "./a-b.rs"] := by
    decide +kernel
  rw [hgather] at hfiles
  cases hfiles
  have hdelivers := t.delivers_walk ["work"] (excludedNames ++ ["vendor"])
  have hreverse : t.Delivers ["work"] (excludedNames ++ ["vendor"])
      (t.walk ["work"] (excludedNames ++ ["vendor"])).reverse :=
    ⟨List.nodup_reverse.mpr hdelivers.once, fun v => by rw [List.mem_reverse, hdelivers.mem_iff]⟩
  exact ⟨ht, hgather, hlisting, hsame _ hreverse, hmissing.mp (by decide +kernel)⟩

end FileTree

end CallReach
