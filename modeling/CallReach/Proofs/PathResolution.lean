import CallReach.Files.Tree
import CallReach.Path
import Mathlib.Data.List.Basic
import Mathlib.Data.List.Induction

/-!
# Resolving paths

The canonical form of a path says where the path leads, by its text alone. `trail` is what is
walked: the components that remain of a path, the last one first. A path that is seen from a
directory goes on from the trail of the directory, and the canonical form of a path has the same
trail as the path. So it does not matter whether a directory is made canonical before a path is
joined to it.

## Key results

- `steps_join`: the components of a path that is seen from a directory
- `trail_join`: where such a path leads
- `trail_normalize`: the canonical form leads to the same place
- `normalize_join_normalize`: directories may be made canonical first
- `same_iff_of_canonical`: canonical paths are told apart by their components
- `foldl_resolveStep_eq`: from anywhere, to walk a path is to walk what remains of it
- `components_normalize`: the components of a canonical path
- `absolute_normalize`, `absolute_join`: what the absolute form of a path depends on
-/

namespace CallReach

/-! ## Cutting at a separator -/

namespace Text

theorem cutAt_ne_nil (sep : Char) (cs : List Char) : cutAt sep cs ≠ [] := by
  fun_cases cutAt sep cs <;> simp

/-- `cutAt` ends a piece at a separator. -/
theorem cutAt_append (sep : Char) (as bs : List Char) :
    cutAt sep (as ++ sep :: bs) = cutAt sep as ++ cutAt sep bs := by
  induction as with
  | nil => simp [cutAt]
  | cons c as ih =>
    by_cases hc : c = sep
    · simp [cutAt, hc, ih]
    · obtain ⟨piece, pieces, hcut⟩ := List.exists_cons_of_ne_nil (cutAt_ne_nil sep as)
      simp [cutAt, hc, ih, hcut]

private theorem not_mem_of_mem_cutAt {sep : Char} {cs piece : List Char}
    (h : piece ∈ cutAt sep cs) : sep ∉ piece := by
  induction cs generalizing piece with
  | nil => simp_all [cutAt]
  | cons c cs ih =>
    by_cases hc : c = sep
    · simp only [cutAt, hc, if_true, List.mem_cons] at h
      rcases h with rfl | h
      · simp
      · exact ih h
    · obtain ⟨first, pieces, hcut⟩ := List.exists_cons_of_ne_nil (cutAt_ne_nil sep cs)
      rw [hcut] at ih
      simp only [cutAt, hc, if_false, hcut, List.mem_cons] at h
      rcases h with rfl | h
      · have hfirst : sep ∉ first := ih List.mem_cons_self
        simp [hfirst, Ne.symm hc]
      · exact ih (List.mem_cons_of_mem _ h)

private theorem subset_of_mem_cutAt {sep : Char} {cs piece : List Char} (h : piece ∈ cutAt sep cs) :
    piece ⊆ cs := by
  induction cs generalizing piece with
  | nil => simp_all [cutAt]
  | cons c cs ih =>
    by_cases hc : c = sep
    · simp only [cutAt, hc, if_true, List.mem_cons] at h
      rcases h with rfl | h
      · simp
      · exact List.subset_cons_of_subset _ (ih h)
    · obtain ⟨first, pieces, hcut⟩ := List.exists_cons_of_ne_nil (cutAt_ne_nil sep cs)
      rw [hcut] at ih
      simp only [cutAt, hc, if_false, hcut, List.mem_cons] at h
      rcases h with rfl | h
      · exact List.cons_subset_cons _ (ih List.mem_cons_self)
      · exact List.subset_cons_of_subset _ (ih (List.mem_cons_of_mem _ h))

/-- `cutAt` leaves a text without the separator in one piece. -/
theorem cutAt_of_not_mem {sep : Char} {piece : List Char} (h : sep ∉ piece) :
    cutAt sep piece = [piece] := by
  induction piece with
  | nil => rfl
  | cons c piece ih =>
    rw [List.mem_cons, not_or] at h
    simp [cutAt, Ne.symm h.1, ih h.2]

/-- `cutAt` reads pieces without the separator back. -/
theorem cutAt_intercalate {sep : Char} {pieces : List (List Char)} (hne : pieces ≠ [])
    (h : ∀ piece ∈ pieces, sep ∉ piece) : cutAt sep ([sep].intercalate pieces) = pieces := by
  induction pieces with
  | nil => exact absurd rfl hne
  | cons piece pieces ih =>
    rw [List.forall_mem_cons] at h
    cases pieces with
    | nil => rw [List.intercalate_singleton, cutAt_of_not_mem h.1]
    | cons next pieces =>
      rw [List.intercalate_cons_cons, List.append_assoc, List.singleton_append, cutAt_append,
        cutAt_of_not_mem h.1, ih (List.cons_ne_nil _ _) h.2, List.singleton_append]

end Text

namespace Path

/-! ## Names and `..` -/

/-- The component of a piece has the piece as its text: it is a name or `..`. -/
def Component.IsPlain (c : Component) : Prop :=
  '/' ∉ c.text.toList ∧ Component.ofPiece? c.text.toList = some c

/-- The names and `..` of a path, in order. -/
def steps (p : String) : List Component :=
  (Text.cutAt '/' p.toList).filterMap Component.ofPiece?

private theorem Component.toList_text_of_ofPiece? {piece : List Char} {c : Component}
    (h : ofPiece? piece = some c) : c.text.toList = piece := by
  unfold ofPiece? at h
  split at h <;> cases h <;> simp [text]

/-- The `steps` of a path are names and `..`. -/
theorem isPlain_of_mem_steps {p : String} {c : Component} (h : c ∈ steps p) : c.IsPlain := by
  obtain ⟨piece, hmem, hpiece⟩ := List.mem_filterMap.mp h
  rw [Component.IsPlain, Component.toList_text_of_ofPiece? hpiece]
  exact ⟨Text.not_mem_of_mem_cutAt hmem, hpiece⟩

theorem subset_of_mem_steps {p : String} {c : Component} (h : c ∈ steps p) :
    c.text.toList ⊆ p.toList := by
  obtain ⟨piece, hmem, hpiece⟩ := List.mem_filterMap.mp h
  rw [Component.toList_text_of_ofPiece? hpiece]
  exact Text.subset_of_mem_cutAt hmem

/-- `components` of an absolute path: the root in front of the steps. -/
theorem components_of_absolute {p : String} (h : isAbsolute p = true) :
    components p = .root :: steps p := by
  unfold isAbsolute at h
  unfold components steps
  cases hp : p.toList with
  | nil => simp [hp] at h
  | cons c cs =>
    obtain rfl : c = '/' := by simpa [hp] using h
    obtain ⟨piece, pieces, hcut⟩ := List.exists_cons_of_ne_nil (Text.cutAt_ne_nil '/' cs)
    have hempty : Component.ofPiece? [] = none := rfl
    simp [Text.cutAt, hcut, List.filterMap_cons_none hempty]

/-- `components` of a relative path: nothing but a dot in front of the steps. -/
theorem components_of_relative {p : String} (h : isAbsolute p = false) :
    components p = steps p ∨ components p = .here :: steps p := by
  unfold isAbsolute at h
  unfold components steps
  cases hp : p.toList with
  | nil => exact .inl rfl
  | cons c cs =>
    have hc : c ≠ '/' := by simpa [hp] using h
    obtain ⟨piece, pieces, hcut⟩ := List.exists_cons_of_ne_nil (Text.cutAt_ne_nil '/' cs)
    -- Only a first piece that is a single dot is kept as a component.
    by_cases hdot : c = '.' ∧ piece = []
    · obtain ⟨rfl, rfl⟩ := hdot
      exact .inr (by simp [Text.cutAt, hcut, Component.ofPiece?])
    · refine .inl ?_
      simp only [Text.cutAt, hc, if_false, hcut]
      split <;> simp_all

theorem mem_steps_of_mem_components {p name : String} (h : .name name ∈ components p) :
    .name name ∈ steps p := by
  by_cases habsolute : isAbsolute p = true
  · rw [components_of_absolute habsolute] at h
    simpa using h
  · rcases components_of_relative (Bool.eq_false_iff.mpr habsolute) with hc | hc
    · rwa [hc] at h
    · rw [hc] at h
      simpa using h

/-- `join` puts the steps of a path behind those of the directory. -/
theorem steps_join {a b : String} (hb : isAbsolute b = false) :
    steps (join a b) = steps a ++ steps b := by
  have hempty : Component.ofPiece? [] = none := rfl
  have hslash : ("/" : String).toList = ['/'] := rfl
  unfold join steps
  rw [if_neg (by simp [hb])]
  -- Nothing is put between the two if the directory is empty or ends in a slash.
  split
  · rename_i hnone
    simp [List.getLast?_eq_none_iff.mp hnone, Text.cutAt, hempty]
  · rename_i hlast
    obtain ⟨front, hfront⟩ := List.getLast?_eq_some_iff.mp hlast
    rw [String.toList_append, hfront, List.append_assoc, List.singleton_append, Text.cutAt_append,
      Text.cutAt_append]
    simp [Text.cutAt, hempty]
  · rw [String.toList_append, String.toList_append, hslash, List.append_assoc,
      List.singleton_append, Text.cutAt_append, List.filterMap_append]

/-- `join` gives a path that is as absolute as the directory. -/
theorem isAbsolute_join {a b : String} (hb : isAbsolute b = false) :
    isAbsolute (join a b) = isAbsolute a := by
  unfold join
  rw [if_neg (by simp [hb])]
  split
  · rename_i hnone
    simp_all [isAbsolute]
  · rename_i hlast
    obtain ⟨front, hfront⟩ := List.getLast?_eq_some_iff.mp hlast
    unfold isAbsolute
    cases front <;> simp [hfront]
  · rename_i hlast
    obtain ⟨front, hfront⟩ := List.getLast?_eq_some_iff.mp hlast
    unfold isAbsolute
    cases front <;> simp [hfront]

/-- `join` to an absolute directory is absolute, be the path absolute or not. -/
theorem isAbsolute_join_of_absolute {a : String} (ha : isAbsolute a = true) (b : String) :
    isAbsolute (join a b) = true := by
  cases hb : isAbsolute b with
  | true => simp [join, hb]
  | false => rw [isAbsolute_join hb, ha]

/-! ## Trails -/

/-- The components that remain of a path, the last one first. -/
def trail (p : String) : List Component := (components p).foldl resolveStep []

/-- `trail` starts at the root or from nowhere. -/
theorem trail_eq (p : String) :
    trail p = (steps p).foldl resolveStep (if isAbsolute p then [.root] else []) := by
  unfold trail
  cases h : isAbsolute p with
  | true =>
    rw [components_of_absolute h]
    rfl
  | false =>
    rcases components_of_relative h with hc | hc
    · rw [hc]
      rfl
    · rw [hc]
      rfl

/-- `trail` of a path seen from a directory goes on where the directory is. -/
theorem trail_join {a b : String} (hb : isAbsolute b = false) :
    trail (join a b) = (steps b).foldl resolveStep (trail a) := by
  rw [trail_eq, trail_eq, steps_join hb, isAbsolute_join hb, List.foldl_append]

/-- `normalize` depends on the trail alone. -/
private theorem normalize_congr {p q : String} (h : trail p = trail q) :
    normalize p = normalize q := by
  have hresolve : resolve p = resolve q := congrArg List.reverse h
  unfold normalize
  rw [hresolve]

/-- Nothing of a trail can be resolved any more: names lead from the root, or from `..` any number
of times. -/
def IsTrail : List Component → Prop
  | [] => True
  | .root :: rest => rest = []
  | .here :: _ => False
  | .up :: rest => ∀ c ∈ rest, c = .up
  | .name s :: rest => (Component.name s).IsPlain ∧ IsTrail rest

/-- `resolveStep` keeps `IsTrail`. -/
private theorem isTrail_resolveStep {ts : List Component} (ht : IsTrail ts) {c : Component}
    (hc : c.IsPlain) : IsTrail (resolveStep ts c) := by
  cases c with
  | root => exact absurd hc.1 (by decide)
  | here => exact absurd hc.2 (by decide)
  | name s => exact ⟨hc, ht⟩
  | up =>
    match ts with
    | [] => simp [resolveStep, IsTrail]
    | .root :: rest => exact ht
    | .here :: rest => exact ht.elim
    | .up :: rest => simpa [resolveStep, IsTrail] using ht
    | .name s :: rest => exact ht.2

private theorem isTrail_trail (p : String) : IsTrail (trail p) := by
  have hstart : IsTrail (if isAbsolute p then [.root] else []) := by
    split <;> simp [IsTrail]
  rw [trail_eq]
  exact List.foldlRecOn _ _ hstart fun ts ht c hc =>
    isTrail_resolveStep ht (isPlain_of_mem_steps hc)

/-- `resolveStep` has nothing to do along a trail. -/
private theorem foldl_reverse_of_isTrail {ts : List Component} (ht : IsTrail ts) :
    ts.reverse.foldl resolveStep [] = ts := by
  induction ts with
  | nil => rfl
  | cons c rest ih =>
    rw [List.reverse_cons, List.foldl_append]
    cases c with
    | root =>
      obtain rfl : rest = [] := ht
      rfl
    | here => exact ht.elim
    | name s => rw [ih ht.2]; rfl
    | up =>
      -- There is nothing but `..` in front of it, so it stays as well.
      have hrest : IsTrail rest := by
        cases rest with
        | nil => trivial
        | cons d rest =>
          obtain rfl : d = .up := ht d List.mem_cons_self
          exact fun c hc => ht c (List.mem_cons_of_mem _ hc)
      rw [ih hrest]
      cases rest with
      | nil => rfl
      | cons d rest =>
        obtain rfl : d = .up := ht d List.mem_cons_self
        rfl

/-- `IsTrail` means names and `..`, and at most the root at the start. -/
private theorem isPlain_of_isTrail {ts : List Component} (ht : IsTrail ts) :
    (∀ c ∈ ts, c.IsPlain) ∨ ∃ cs, ts = cs ++ [.root] ∧ ∀ c ∈ cs, c.IsPlain := by
  have hup : Component.up.IsPlain := ⟨by decide, rfl⟩
  induction ts with
  | nil => exact .inl (by simp)
  | cons c rest ih =>
    cases c with
    | root =>
      obtain rfl : rest = [] := ht
      exact .inr ⟨[], rfl, by simp⟩
    | here => exact ht.elim
    | up =>
      refine .inl ?_
      rw [List.forall_mem_cons]
      exact ⟨hup, fun c hc => ht c hc ▸ hup⟩
    | name s =>
      rcases ih ht.2 with hplain | ⟨cs, rfl, hplain⟩
      · exact .inl (List.forall_mem_cons.mpr ⟨ht.1, hplain⟩)
      · exact .inr ⟨.name s :: cs, rfl, List.forall_mem_cons.mpr ⟨ht.1, hplain⟩⟩

/-- The `trail` has names and `..`, apart from the root. -/
theorem isPlain_of_mem_trail {p : String} {c : Component} (hc : c ∈ trail p) (hne : c ≠ .root) :
    c.IsPlain := by
  rcases isPlain_of_isTrail (isTrail_trail p) with hplain | ⟨cs, hcs, hplain⟩
  · exact hplain c hc
  · rw [hcs, List.mem_append, List.mem_singleton] at hc
    exact hplain c (hc.resolve_right hne)

/-! ## Canonical forms -/

/-- Names and `..` that are written with slashes between them can be read back. -/
private theorem filterMap_cutAt_intercalate {cs : List Component} (h : ∀ c ∈ cs, c.IsPlain) :
    (Text.cutAt '/' (['/'].intercalate (cs.map (·.text.toList)))).filterMap Component.ofPiece? =
      cs := by
  by_cases hne : cs = []
  · subst hne
    rfl
  · have hread : cs.filterMap (Component.ofPiece? ∘ fun c => c.text.toList) = cs.filterMap some :=
      List.filterMap_congr fun c hc => (h c hc).2
    rw [Text.cutAt_intercalate (by simpa using hne) (by simpa using fun c hc => (h c hc).1),
      List.filterMap_map, hread, List.filterMap_some]

private theorem toList_intercalate_text (cs : List Component) :
    ("/".intercalate (cs.map Component.text)).toList =
      ['/'].intercalate (cs.map (·.text.toList)) := by
  rw [String.toList_intercalate, List.map_map]
  rfl

private theorem toList_ofComponents_root (cs : List Component) :
    (ofComponents (.root :: cs)).toList = '/' :: ['/'].intercalate (cs.map (·.text.toList)) := by
  rw [ofComponents, String.toList_append, toList_intercalate_text]
  rfl

private theorem isAbsolute_ofComponents_root (cs : List Component) :
    isAbsolute (ofComponents (.root :: cs)) = true := by
  rw [isAbsolute, toList_ofComponents_root]
  rfl

/-- `steps` reads back what `ofComponents` has written behind the root. -/
private theorem steps_ofComponents_root {cs : List Component} (h : ∀ c ∈ cs, c.IsPlain) :
    steps (ofComponents (.root :: cs)) = cs := by
  have hempty : Component.ofPiece? [] = none := rfl
  rw [steps, toList_ofComponents_root, Text.cutAt, if_pos rfl, List.filterMap_cons_none hempty,
    filterMap_cutAt_intercalate h]

private theorem trail_ofComponents_root {cs : List Component} (h : ∀ c ∈ cs, c.IsPlain) :
    trail (ofComponents (.root :: cs)) = cs.foldl resolveStep [.root] := by
  rw [trail_eq, steps_ofComponents_root h, if_pos (isAbsolute_ofComponents_root cs)]

theorem head?_text_of_isPlain {c : Component} (h : c.IsPlain) : c.text.toList.head? ≠ some '/' := by
  intro hhead
  exact h.1 (List.mem_of_mem_head? hhead)

theorem toList_ofComponents {cs : List Component} (h : ∀ c ∈ cs, c.IsPlain) :
    (ofComponents cs).toList = ['/'].intercalate (cs.map (·.text.toList)) := by
  rw [← toList_intercalate_text]
  unfold ofComponents
  split
  · exact absurd (h .root List.mem_cons_self).1 (by decide)
  · rfl

/-- `ofComponents` of names and `..` is not absolute, as the first of them does not start with a
slash. -/
private theorem isAbsolute_ofComponents {cs : List Component} (h : ∀ c ∈ cs, c.IsPlain) :
    isAbsolute (ofComponents cs) = false := by
  rw [isAbsolute, toList_ofComponents h, decide_eq_false_iff_not]
  cases cs with
  | nil => simp
  | cons c cs =>
    have hc := h c List.mem_cons_self
    -- An empty piece would not be read as a component.
    have hne : c.text.toList ≠ [] := by
      intro hnil
      have hread := hc.2
      rw [hnil] at hread
      cases hread
    have hhead := head?_text_of_isPlain hc
    cases cs with
    | nil => simpa using hhead
    | cons d cs =>
      rw [List.map_cons, List.map_cons, List.intercalate_cons_cons, List.append_assoc,
        List.head?_append_of_ne_nil _ hne]
      exact hhead

/-- `steps` reads back what `ofComponents` has written from nowhere. -/
theorem steps_ofComponents {cs : List Component} (h : ∀ c ∈ cs, c.IsPlain) :
    steps (ofComponents cs) = cs := by
  rw [steps, toList_ofComponents h, filterMap_cutAt_intercalate h]

private theorem trail_ofComponents {cs : List Component} (h : ∀ c ∈ cs, c.IsPlain) :
    trail (ofComponents cs) = cs.foldl resolveStep [] := by
  rw [trail_eq, steps_ofComponents h, isAbsolute_ofComponents h]
  rfl

/-- `normalize` keeps the trail: what is written is walked again without a change. -/
theorem trail_normalize (p : String) : trail (normalize p) = trail p := by
  have ht := isTrail_trail p
  have hwalk := foldl_reverse_of_isTrail ht
  have hresolve : resolve p = (trail p).reverse := rfl
  unfold normalize
  rw [hresolve]
  split
  · rename_i hnil
    rw [List.reverse_eq_nil_iff] at hnil
    rw [hnil]
    rfl
  · -- The written form starts with a slash exactly if the trail starts at the root.
    rcases isPlain_of_isTrail ht with hplain | ⟨cs, hcs, hplain⟩
    · rw [trail_ofComponents (by simpa using hplain), hwalk]
    · rw [hcs, List.reverse_append] at hwalk ⊢
      rw [List.reverse_singleton, List.singleton_append] at hwalk ⊢
      rw [trail_ofComponents_root (by simpa using hplain)]
      exact hwalk

/-- `resolveStep` neither takes the root away nor adds it. -/
private theorem root_mem_resolveStep_iff {ts : List Component} {c : Component} (hc : c.IsPlain) :
    .root ∈ resolveStep ts c ↔ .root ∈ ts := by
  cases c with
  | root => exact absurd hc.1 (by decide)
  | here => exact absurd hc.2 (by decide)
  | name s => simp [resolveStep]
  | up =>
    match ts with
    | [] => simp [resolveStep]
    | .root :: rest => rfl
    | .here :: rest => simp [resolveStep]
    | .up :: rest => simp [resolveStep]
    | .name s :: rest => simp [resolveStep]

/-- The root is in the `trail` of absolute paths only. -/
theorem root_mem_trail_iff (p : String) : .root ∈ trail p ↔ isAbsolute p = true := by
  have hstart : .root ∈ (if isAbsolute p then [Component.root] else []) ↔ isAbsolute p = true := by
    cases isAbsolute p <;> simp
  rw [trail_eq]
  refine List.foldlRecOn (motive := fun ts => Component.root ∈ ts ↔ isAbsolute p = true)
    _ _ hstart ?_
  intro ts ht c hc
  rw [root_mem_resolveStep_iff (isPlain_of_mem_steps hc), ht]

/-- `normalize` keeps a path absolute or relative. -/
theorem isAbsolute_normalize (p : String) : isAbsolute (normalize p) = isAbsolute p := by
  rw [Bool.eq_iff_iff, ← root_mem_trail_iff, trail_normalize, root_mem_trail_iff]

/-- `normalize` is idempotent. -/
theorem normalize_normalize (p : String) : normalize (normalize p) = normalize p :=
  normalize_congr (trail_normalize p)

/-- `absolute` gives canonical paths. -/
theorem normalize_absolute (cwd p : String) : normalize (absolute cwd p) = absolute cwd p := by
  unfold absolute
  split <;> exact normalize_normalize _

/-- `same` compares canonical paths letter by letter. -/
theorem same_iff_of_canonical {p q : String} (hp : normalize p = p) (hq : normalize q = q) :
    same p q = true ↔ p = q := by
  rw [same, decide_eq_true_eq]
  constructor
  · intro hcomponents
    have htrail : trail p = trail q := congrArg (List.foldl resolveStep []) hcomponents
    rw [← hp, ← hq]
    exact normalize_congr htrail
  · intro heq
    rw [heq]

/-- `normalize` may be applied to the directory before a path is joined to it. -/
theorem normalize_join_normalize (a b : String) :
    normalize (join (normalize a) b) = normalize (join a b) := by
  cases hb : isAbsolute b with
  | true => simp [join, hb]
  | false =>
    apply normalize_congr
    rw [trail_join hb, trail_join hb, trail_normalize]

/-- `absolute` gives absolute paths, if the working directory is absolute. -/
theorem isAbsolute_absolute {cwd : String} (hcwd : isAbsolute cwd = true) (p : String) :
    isAbsolute (absolute cwd p) = true := by
  unfold absolute
  split
  · rw [isAbsolute_normalize]
    assumption
  · rw [isAbsolute_normalize]
    exact isAbsolute_join_of_absolute hcwd p

/-- `absolute` of a path seen from an absolute directory. The working directory has no part in
it. -/
theorem absolute_join_absolute {root : String} (hroot : isAbsolute root = true) (cwd p : String) :
    absolute cwd (join (absolute cwd root) p) = normalize (join root p) := by
  have hcanonical : absolute cwd root = normalize root := if_pos hroot
  have habsolute : isAbsolute (join (normalize root) p) = true :=
    isAbsolute_join_of_absolute (by rw [isAbsolute_normalize, hroot]) p
  rw [hcanonical, absolute, if_pos habsolute, normalize_join_normalize]

/-! ## Paths from anywhere -/

/-- `resolveStep` leaves what was there, and adds its component at most. -/
private theorem resolveStep_subset (ts : List Component) (c : Component) :
    resolveStep ts c ⊆ c :: ts := by
  unfold resolveStep
  split
  · exact List.subset_cons_self _ _
  · split
    · exact fun x hx => List.mem_cons_of_mem _ (List.mem_cons_of_mem _ hx)
    · exact List.subset_cons_self _ _
    · exact List.Subset.refl _
  · exact List.Subset.refl _

private theorem isPlain_foldl_resolveStep {ss : List Component} (h : ∀ c ∈ ss, c.IsPlain) :
    ∀ c ∈ ss.foldl resolveStep [], c.IsPlain := by
  have hstart : ∀ c ∈ ([] : List Component), c.IsPlain := by simp
  refine List.foldlRecOn (motive := fun ts => ∀ c ∈ ts, c.IsPlain) ss resolveStep hstart ?_
  intro ts hts d hd c hc
  rcases List.mem_cons.mp (resolveStep_subset ts d hc) with rfl | hmem
  · exact h c hd
  · exact hts c hmem

/-- `resolveStep` along a path goes from anywhere to where it goes along what remains of the
path. -/
theorem foldl_resolveStep_eq {ss : List Component} (h : ∀ c ∈ ss, c.IsPlain) (ts : List Component) :
    ss.foldl resolveStep ts = (ss.foldl resolveStep []).reverse.foldl resolveStep ts := by
  induction ss using List.reverseRecOn with
  | nil => rfl
  | append_singleton ss c ih =>
    have hc : c.IsPlain := h c (List.mem_append_right _ (List.mem_singleton_self c))
    have hss : ∀ d ∈ ss, d.IsPlain := fun d hd => h d (List.mem_append_left _ hd)
    have hrest := isPlain_foldl_resolveStep hss
    rw [List.foldl_append, List.foldl_append, ih hss]
    -- The last step is put behind what remains so far, unless it is `..` and takes a name back.
    generalize ss.foldl resolveStep [] = rest at hrest
    cases c with
    | root => exact absurd hc.1 (by decide)
    | here => exact absurd hc.2 (by decide)
    | name s => simp [resolveStep]
    | up =>
      match rest with
      | [] => simp [resolveStep]
      | .root :: rest => exact absurd (hrest .root List.mem_cons_self).1 (by decide)
      | .here :: rest => exact absurd (hrest .here List.mem_cons_self).2 (by decide)
      | .up :: rest => simp [resolveStep]
      | .name s :: rest => simp [resolveStep]

theorem isPlain_of_mem_trail_of_relative {p : String} (h : isAbsolute p = false) {c : Component}
    (hc : c ∈ trail p) : c.IsPlain := by
  refine isPlain_of_mem_trail hc ?_
  rintro rfl
  rw [root_mem_trail_iff, h] at hc
  cases hc

/-- `normalize` of a relative path has what remains of the path as its steps. -/
private theorem steps_normalize {p : String} (h : isAbsolute p = false) :
    steps (normalize p) = (trail p).reverse := by
  have hplain : ∀ c ∈ trail p, c.IsPlain := fun c hc => isPlain_of_mem_trail_of_relative h hc
  have hresolve : resolve p = (trail p).reverse := rfl
  unfold normalize
  rw [hresolve]
  split
  · rename_i hnil
    rw [hnil]
    decide
  · exact steps_ofComponents (by simpa using hplain)

/-- `normalize` of an absolute path has what remains of the path as its components. -/
theorem components_normalize {p : String} (h : isAbsolute p = true) :
    components (normalize p) = resolve p := by
  have hroot : Component.root ∈ trail p := (root_mem_trail_iff p).mpr h
  rcases isPlain_of_isTrail (isTrail_trail p) with hplain | ⟨cs, hcs, hplain⟩
  · exact absurd (hplain .root hroot).1 (by decide)
  · have hresolve : resolve p = .root :: cs.reverse := by
      show (trail p).reverse = _
      rw [hcs, List.reverse_append]
      rfl
    have hnormalize : normalize p = ofComponents (.root :: cs.reverse) := by
      unfold normalize
      rw [hresolve]
    rw [hnormalize, components_of_absolute (isAbsolute_ofComponents_root _),
      steps_ofComponents_root (by simpa using hplain), hresolve]

/-- `absolute` depends on the canonical form of the path alone. -/
theorem absolute_normalize (cwd p : String) : absolute cwd (normalize p) = absolute cwd p := by
  unfold absolute
  rw [isAbsolute_normalize]
  cases h : isAbsolute p with
  | true => simp [normalize_normalize]
  | false =>
    have hrelative : isAbsolute (normalize p) = false := by rw [isAbsolute_normalize, h]
    have htrail : trail p = (steps p).foldl resolveStep [] := by
      rw [trail_eq, h]
      rfl
    -- From the working directory, the path and what remains of it lead to the same place.
    have hwalk : (steps p).foldl resolveStep (trail cwd) =
        ((steps p).foldl resolveStep []).reverse.foldl resolveStep (trail cwd) :=
      foldl_resolveStep_eq (fun c hc => isPlain_of_mem_steps hc) (trail cwd)
    simp only [Bool.false_eq_true, if_false]
    apply normalize_congr
    rw [trail_join hrelative, trail_join h, steps_normalize h, htrail, ← hwalk]

/-- `absolute` may be applied to the directory that a path is seen from. -/
theorem absolute_join {cwd : String} (hcwd : isAbsolute cwd = true) (dir p : String) :
    absolute cwd (join (absolute cwd dir) p) = absolute cwd (join dir p) := by
  cases hdir : isAbsolute dir with
  | true =>
    have habsolute : isAbsolute (join dir p) = true := isAbsolute_join_of_absolute hdir p
    rw [absolute_join_absolute hdir, absolute, if_pos habsolute]
  | false =>
    cases hp : isAbsolute p with
    | true => simp [join, hp]
    | false =>
      have hjoin : isAbsolute (join dir p) = false := by rw [isAbsolute_join hp, hdir]
      have hbase : isAbsolute (join cwd dir) = true := isAbsolute_join_of_absolute hcwd dir
      have habsolute : absolute cwd dir = normalize (join cwd dir) := by simp [absolute, hdir]
      -- From the working directory, both go along the steps of `dir` and then along those of `p`.
      have hsame : normalize (join (join cwd dir) p) = normalize (join cwd (join dir p)) := by
        apply normalize_congr
        rw [trail_join hp, trail_join hdir, trail_join hjoin, steps_join hp, List.foldl_append]
      have hseen : isAbsolute (join (normalize (join cwd dir)) p) = true :=
        isAbsolute_join_of_absolute (by rw [isAbsolute_normalize, hbase]) p
      rw [habsolute, absolute, if_pos hseen, normalize_join_normalize, hsame, absolute,
        if_neg (by simp [hjoin])]

end Path

/-- The path of a place in a tree is absolute. -/
theorem Place.isAbsolute_text (place : Place) : Path.isAbsolute place.text = true := by
  simp [Path.isAbsolute, Place.text, String.toList_append]

end CallReach
