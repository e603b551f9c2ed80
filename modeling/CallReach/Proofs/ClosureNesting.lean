import CallReach.Proofs.AnalysisCorrect
import CallReach.Proofs.BodyWalk
import CallReach.Proofs.ClosureNames
import CallReach.Proofs.PathResolution
import CallReach.Proofs.PathSegments
import CallReach.Source.Index

/-!
# Closures and the functions around them

A walk over a source file writes the nesting of closures into their names, and the call graph reads
it out of the names again. Here the nesting is taken from the outline alone: `sitesIn` lists the
bodies of a forest with the place of the innermost body around each of them, and knows no names. A
closure is then named after the body around it, with the number of closures that come before it
directly in that body, and what the graph reads is the innermost function around the closure.

## Key results

- `countP_sitesIn`: how many closures stand directly in a body
- `Nested.concat`: what opening one body preserves
- `nested_bodiesIn`: what a walk over a forest preserves
- `Nested.exists_function`: every closure is named after the innermost function around it
- `closure_names_read_back`: the names in a file and what the call graph makes of them
-/

namespace CallReach.Source

/-! ## Bodies without names -/

/-- A body as the outline shows it: its row, whether it is that of a closure, and the place of the
innermost body around it in the list of bodies. -/
structure Site where
  row : Nat
  closure : Bool
  around : Option Nat
  deriving DecidableEq, Repr

/-- The body is that of a closure directly in the body at a place. -/
def Site.directlyIn (place : Nat) (s : Site) : Bool := s.closure && s.around = some place

mutual

/-- The bodies in an outline. `around` is the place of the innermost body around it, and `next` the
place of the first body in it. -/
def Outline.sites (around : Option Nat) (next : Nat) : Outline → List Site
  | .closure row inside =>
    match around with
    | none => sitesIn none next inside
    | some _ => ⟨row, true, around⟩ :: sitesIn (some next) (next + 1) inside
  | .function _ row _ inside => ⟨row, false, around⟩ :: sitesIn (some next) (next + 1) inside
  | .owner _ inside | .module _ inside | .invocation (some inside) => sitesIn around next inside
  | .mention _ | .method _ | .requirement .. | .moduleFile .. | .invocation none => []

/-- The bodies in a forest, in the order in which they are opened. -/
def sitesIn (around : Option Nat) (next : Nat) : Forest → List Site
  | [] => []
  | o :: os => o.sites around next ++ sitesIn around (next + (o.sites around next).length) os

end

/-- The innermost function around a closure, both by their places: the closure stands in it directly
or in closures in between. -/
inductive InFunction (sites : List Site) : Nat → Nat → Prop where
  | direct {i j : Nat} {s f : Site} (hs : sites[i]? = some s) (haround : s.around = some j)
      (hf : sites[j]? = some f) (hfunction : f.closure = false) : InFunction sites i j
  | through {i k j : Nat} {s t : Site} (hs : sites[i]? = some s) (haround : s.around = some k)
      (ht : sites[k]? = some t) (hclosure : t.closure = true) (hin : InFunction sites k j) :
      InFunction sites i j

/-- The closures of `sitesIn` that stand directly in a body opened before are those of `closuresIn`,
if that body is the innermost one around the forest, and there are none otherwise. -/
theorem countP_sitesIn {place : Nat} (os : Forest) {around : Option Nat} {next : Nat}
    (hplace : place < next) :
    (sitesIn around next os).countP (·.directlyIn place) =
      if around = some place then closuresIn os else 0 := by
  induction os using Forest.induction generalizing around next with
  | nil => simp [sitesIn, closuresIn]
  | cons o os hinside hos =>
    have ho : (o.sites around next).countP (·.directlyIn place) =
        if around = some place then o.closures else 0 := by
      -- A body that is opened here comes later than the place, so what is inside it does not count.
      have hopened : (sitesIn (some next) (next + 1) o.inside).countP (·.directlyIn place) = 0 := by
        rw [hinside (by omega), if_neg]
        intro h
        have := Option.some.inj h
        omega
      cases o with
      | mention | method | requirement | moduleFile => simp [Outline.sites, Outline.closures]
      | closure row inside =>
        cases around with
        | none => exact @hinside none next hplace
        | some k =>
          rw [Outline.inside] at hopened
          rw [Outline.sites, List.countP_cons, hopened, Outline.closures]
          simp [Site.directlyIn]
      | function name row associated inside =>
        rw [Outline.inside] at hopened
        rw [Outline.sites, List.countP_cons, hopened, Outline.closures]
        simp [Site.directlyIn]
      | owner | module => exact hinside hplace
      | invocation arguments =>
        cases arguments with
        | some arguments => exact hinside hplace
        | none => simp [Outline.sites, Outline.closures]
    rw [sitesIn, List.countP_append, ho, hos (by omega), closuresIn]
    split <;> rfl

private theorem countP_sites {place : Nat} (o : Outline) {around : Option Nat} {next : Nat}
    (hplace : place < next) :
    (o.sites around next).countP (·.directlyIn place) =
      if around = some place then o.closures else 0 := by
  have hone := @countP_sitesIn place [o] around next hplace
  rwa [sitesIn, sitesIn, List.append_nil, closuresIn, closuresIn, Nat.add_zero] at hone

/-! ## What a walk preserves -/

/-- The bodies that a walk has opened so far, against the outline: rows and kinds agree, bodies come
behind those around them, a closure has the name of the body around it with the next ordinal there,
and the name of a function has no mark. -/
structure Nested (sites : List Site) (bodies : List Body) : Prop where
  kinds : sites.map (fun s => (s.row, s.closure)) = bodies.map (fun b => (b.row, b.closure))
  outward : ∀ {i : Nat} {s : Site} {k : Nat}, sites[i]? = some s → s.around = some k → k < i
  closures : ∀ {i : Nat} {s : Site} {b : Body}, sites[i]? = some s → bodies[i]? = some b →
    s.closure = true →
    ∃ k f, s.around = some k ∧ bodies[k]? = some f ∧
      b.path = closureName f.path ((sites.take i).countP (·.directlyIn k) + 1)
  functions : ∀ b ∈ bodies, b.closure = false → closureMark ∉ b.path.toList

namespace Nested

variable {sites : List Site} {bodies : List Body}

theorem nil : Nested [] [] where
  kinds := rfl
  outward := by simp
  closures := by simp
  functions := by simp

theorem length_eq (h : Nested sites bodies) : sites.length = bodies.length := by
  simpa using congrArg List.length h.kinds

private theorem closure_eq (h : Nested sites bodies) {i : Nat} {s : Site} {b : Body}
    (hs : sites[i]? = some s) (hb : bodies[i]? = some b) : s.closure = b.closure := by
  have hkind := congrArg (·[i]?) h.kinds
  simp only [List.getElem?_map, hs, hb, Option.map_some, Option.some.injEq, Prod.mk.injEq] at hkind
  exact hkind.2

/-- `Nested` is preserved if one more body is opened. -/
theorem concat (h : Nested sites bodies) {s : Site} {b : Body} (hrow : s.row = b.row)
    (hkind : s.closure = b.closure) (hout : ∀ k, s.around = some k → k < sites.length)
    (hclosure : s.closure = true → ∃ k f, s.around = some k ∧ bodies[k]? = some f ∧
      b.path = closureName f.path (sites.countP (·.directlyIn k) + 1))
    (hfunction : b.closure = false → closureMark ∉ b.path.toList) :
    Nested (sites ++ [s]) (bodies ++ [b]) where
  kinds := by simp [h.kinds, hrow, hkind]
  outward := by
    intro i s' k hs' hk
    rcases List.lt_or_eq_of_getElem?_concat hs' with ⟨-, hs'⟩ | ⟨rfl, rfl⟩
    · exact h.outward hs' hk
    · exact hout k hk
  closures := by
    intro i s' b' hs' hb' hclosed
    -- The body around the closure was opened before, so that it is still at its place.
    have hkeep : ∀ {k : Nat} {f : Body}, bodies[k]? = some f → (bodies ++ [b])[k]? = some f := by
      intro k f hf
      rw [List.getElem?_append_left (List.getElem?_eq_some_iff.mp hf).1, hf]
    rcases List.lt_or_eq_of_getElem?_concat hs' with ⟨hi, hs'⟩ | ⟨rfl, rfl⟩
    · rw [List.getElem?_append_left (h.length_eq ▸ hi)] at hb'
      obtain ⟨k, f, hk, hf, hpath⟩ := h.closures hs' hb' hclosed
      refine ⟨k, f, hk, hkeep hf, ?_⟩
      rw [List.take_append_of_le_length (Nat.le_of_lt hi)]
      exact hpath
    · obtain rfl : b = b' := by simpa [h.length_eq] using hb'
      obtain ⟨k, f, hk, hf, hpath⟩ := hclosure hclosed
      refine ⟨k, f, hk, hkeep hf, ?_⟩
      rw [List.take_left]
      exact hpath
  functions := by
    intro b' hb'
    rcases List.mem_append.mp hb' with hb' | hb'
    · exact h.functions b' hb'
    · obtain rfl := List.mem_singleton.mp hb'
      exact hfunction

end Nested

/-- The innermost body around a forest, by its place and as `Holder` of closures, with the number of
closures that have been opened directly in it. -/
inductive Around (sites : List Site) (bodies : List Body) :
    Option Nat → Option Holder → Nat → Prop where
  | outside (before : Nat) : Around sites bodies none none before
  | body {place : Nat} {b : Body} (hb : bodies[place]? = some b) :
      Around sites bodies (some place) (some b.holder) (sites.countP (·.directlyIn place))

/-- What comes behind leaves the body of `Around` where it is, and adds its closures. -/
theorem Around.append {sites more : List Site} {bodies bodies' : List Body} {around : Option Nat}
    {holder : Option Holder} {before n : Nat} (h : Around sites bodies around holder before)
    (hmore : ∀ place, around = some place → more.countP (·.directlyIn place) = n) :
    Around (sites ++ more) (bodies ++ bodies') around holder (before + n) := by
  cases h with
  | outside => exact .outside _
  | body hb =>
    rename_i place b
    rw [← hmore place rfl, ← List.countP_append]
    apply Around.body
    rw [List.getElem?_append_left (List.getElem?_eq_some_iff.mp hb).1, hb]

private theorem Around.lt_length {sites : List Site} {bodies : List Body} {place : Nat}
    {holder : Option Holder} {before : Nat} (h : Nested sites bodies)
    (haround : Around sites bodies (some place) holder before) :
    place < sites.length := by
  cases haround with
  | body hb =>
    rw [h.length_eq]
    exact (List.getElem?_eq_some_iff.mp hb).1

/-- The body that was opened last has no closures in it yet, as sites point outwards. -/
private theorem Nested.countP_last {sites : List Site} {bodies : List Body} {s : Site} {b : Body}
    (h : Nested (sites ++ [s]) (bodies ++ [b])) :
    (sites ++ [s]).countP (·.directlyIn sites.length) = 0 := by
  rw [List.countP_eq_zero]
  intro t ht hin
  obtain ⟨i, hi⟩ := List.mem_iff_getElem?.mp ht
  have hlt : i < (sites ++ [s]).length := (List.getElem?_eq_some_iff.mp hi).1
  simp only [Site.directlyIn, Bool.and_eq_true, decide_eq_true_eq] at hin
  have hout := h.outward hi hin.2
  rw [List.length_append, List.length_singleton] at hlt
  omega

/-- No segment of the module path has a mark. -/
def ModulePath.Unmarked (m : ModulePath) : Prop := ∀ segment ∈ m, closureMark ∉ segment.toList

theorem ModulePath.Unmarked.concat {m : ModulePath} (h : m.Unmarked) (name : Name) :
    ModulePath.Unmarked (m ++ [name.text]) := by
  intro segment hsegment
  rcases List.mem_append.mp hsegment with hm | hname
  · exact h segment hm
  · rw [List.mem_singleton.mp hname]
    exact name.unmarked

/-- `qualify` adds no mark: neither names nor the colons between them have one. -/
theorem ModulePath.Unmarked.qualify {m : ModulePath} (h : m.Unmarked) (name : Name) :
    closureMark ∉ (m.qualify name.text).toList := by
  rw [ModulePath.qualify, Text.toList_joinSegments]
  have hsegments := h.concat name
  -- From here on it does not matter which of the segments is the last one.
  generalize m ++ [name.text] = segments at hsegments
  induction segments with
  | nil => simp
  | cons segment segments ih =>
    have hsegment := hsegments segment List.mem_cons_self
    have hrest := ih fun s hs => hsegments s (List.mem_cons_of_mem _ hs)
    cases segments with
    | nil => simpa using hsegment
    | cons next segments =>
      rw [List.map_cons, List.map_cons, List.intercalate_cons_cons, List.mem_append,
        List.mem_append]
      rintro ((hmark | hmark) | hmark)
      · exact hsegment hmark
      · exact absurd hmark (by decide)
      · exact hrest hmark

/-- `sitesIn` and `bodiesIn` of the forest keep `Nested` if they start from the same body around. -/
def WalksNested (os : Forest) : Prop :=
  ∀ {scope : ModulePath} (owners : List String) {around : Option Nat} {holder : Option Holder}
    {before : Nat} {sites : List Site} {bodies : List Body}, scope.Unmarked → Nested sites bodies →
    Around sites bodies around holder before →
    Nested (sites ++ sitesIn around sites.length os)
      (bodies ++ bodiesIn scope owners holder before os)

/-- `WalksNested` for a body that is opened, and then what is inside. -/
theorem WalksNested.opened {inside : Forest} (hinside : WalksNested inside) {scope : ModulePath}
    (hscope : scope.Unmarked) (owners : List String) {sites : List Site} {bodies : List Body}
    {s : Site} {b : Body} (h : Nested (sites ++ [s]) (bodies ++ [b])) :
    Nested (sites ++ (s :: sitesIn (some sites.length) (sites.length + 1) inside))
      (bodies ++ (b :: bodiesIn scope owners (some b.holder) 0 inside)) := by
  have hb : (bodies ++ [b])[sites.length]? = some b := by
    have hlength := h.length_eq
    simp only [List.length_append, List.length_singleton, Nat.add_right_cancel_iff] at hlength
    simp [hlength]
  have haround : Around (sites ++ [s]) (bodies ++ [b]) (some sites.length) (some b.holder)
      ((sites ++ [s]).countP (·.directlyIn sites.length)) := .body hb
  -- The walk inside numbers its closures from the start.
  rw [h.countP_last] at haround
  have hwalk := hinside owners hscope h haround
  rwa [List.length_append, List.length_singleton, List.append_assoc, List.append_assoc,
    List.singleton_append, List.singleton_append] at hwalk

/-- `WalksNested` for one outline. -/
theorem WalksNested.bodies {o : Outline} (hinside : WalksNested o.inside) {scope : ModulePath}
    (owners : List String) {around : Option Nat} {holder : Option Holder} {before : Nat}
    {sites : List Site} {bodies : List Body} (hscope : scope.Unmarked) (h : Nested sites bodies)
    (haround : Around sites bodies around holder before) :
    Nested (sites ++ o.sites around sites.length)
      (bodies ++ o.bodies scope owners holder before) := by
  cases o with
  | mention | method | requirement | moduleFile =>
    simpa [Outline.sites, Outline.bodies] using h
  | closure row inside =>
    cases haround with
    | outside => exact hinside owners hscope h (.outside 0)
    | body hparent =>
      -- The closure is the next one in the body around it, and the count goes by sites.
      rename_i place parent
      have hplace := Around.lt_length h (.body hparent)
      refine hinside.opened hscope owners (h.concat rfl rfl ?_ ?_ ?_)
      · rintro k ⟨⟩
        exact hplace
      · intro _
        exact ⟨place, parent, rfl, hparent, rfl⟩
      · intro hclosure
        cases hclosure
  | function name row associated inside =>
    refine hinside.opened hscope owners (h.concat rfl rfl ?_ ?_ ?_)
    · rintro k rfl
      exact haround.lt_length h
    · intro hclosure
      cases hclosure
    · intro _
      exact hscope.qualify name
  | owner type inside => exact hinside _ (hscope.concat type) h haround
  | module name inside => exact hinside _ (hscope.concat name) h haround
  | invocation arguments =>
    cases arguments with
    | some arguments => exact hinside owners hscope h haround
    | none => simpa [Outline.sites, Outline.bodies] using h

/-- `WalksNested` holds for every forest, by induction over outlines and forests. -/
theorem nested_bodiesIn (os : Forest) : WalksNested os := by
  induction os using Forest.induction with
  | nil =>
    intro scope owners around holder before sites bodies _ h _
    simpa [sitesIn, bodiesIn] using h
  | cons o os hinside hos =>
    intro scope owners around holder before sites bodies hscope h haround
    have hfirst := hinside.bodies owners hscope h haround
    -- The body around is still the same, with the closures of `o` counted in it.
    have haround' : Around (sites ++ o.sites around sites.length)
        (bodies ++ o.bodies scope owners holder before) around holder (before + o.closures) := by
      apply haround.append
      rintro place rfl
      rw [countP_sites o (haround.lt_length h), if_pos rfl]
    have hrest := hos owners hscope hfirst haround'
    rwa [List.length_append, List.append_assoc, List.append_assoc] at hrest

/-! ## Reading names back -/

/-- The path of a closure is the `closurePath` of the innermost function around it. -/
theorem Nested.exists_function {sites : List Site} {bodies : List Body} (h : Nested sites bodies)
    {i : Nat} {b : Body} (hb : bodies[i]? = some b) (hclosure : b.closure = true) :
    ∃ j f ordinals, InFunction sites i j ∧ bodies[j]? = some f ∧ f.closure = false ∧ ordinals ≠ [] ∧
      b.path = closurePath f.path ordinals := by
  -- From one level to the next one outwards, places get smaller.
  induction i using Nat.strong_induction_on generalizing b with
  | h i ih =>
    obtain ⟨s, hs⟩ : ∃ s, sites[i]? = some s := by
      have hi := (List.getElem?_eq_some_iff.mp hb).1
      rw [← h.length_eq] at hi
      exact ⟨_, List.getElem?_eq_getElem hi⟩
    have hkind := h.closure_eq hs hb
    obtain ⟨k, parent, hk, hparent, hpath⟩ := h.closures hs hb (hkind.trans hclosure)
    generalize (sites.take i).countP (·.directlyIn k) + 1 = n at hpath
    have hlt := h.outward hs hk
    obtain ⟨t, ht⟩ : ∃ t, sites[k]? = some t :=
      ⟨_, List.getElem?_eq_getElem (Nat.lt_trans hlt (List.getElem?_eq_some_iff.mp hs).1)⟩
    have hkind' := h.closure_eq ht hparent
    cases hfunction : parent.closure with
    | false =>
      refine ⟨k, parent, [n], .direct hs hk ht (hkind'.trans hfunction), hparent, hfunction, ?_,
        hpath⟩
      exact List.cons_ne_nil _ _
    | true =>
      obtain ⟨j, f, ordinals, hin, hf, hfunction', -, hpath'⟩ := ih k hlt hparent hfunction
      refine ⟨j, f, ordinals ++ [n], .through hs hk ht (hkind'.trans hfunction) hin, hf, hfunction',
        ?_, ?_⟩
      · exact List.append_ne_nil_of_right_ne_nil _ (List.cons_ne_nil _ _)
      · rw [hpath, hpath', closurePath_append]
        rfl

private theorem packageQualified_closurePath (package name : String) (ordinals : List Nat) :
    packageQualified package (closurePath name ordinals) =
      closurePath (packageQualified package name) ordinals := by
  rw [← String.toList_inj, toList_closurePath]
  simp only [packageQualified, String.toList_append, toList_closurePath, List.append_assoc]

/-- `ofFile` makes a module without marks of a path without marks. -/
private theorem ModulePath.unmarked_ofFile {relative : String} (h : closureMark ∉ relative.toList) :
    (ModulePath.ofFile relative).Unmarked := by
  unfold ModulePath.ofFile
  extract_lets names
  have hnames : ∀ name ∈ names, closureMark ∉ name.toList := by
    intro name hname hmark
    obtain ⟨component, hmem, hcomponent⟩ := List.mem_filterMap.mp hname
    cases component <;> simp at hcomponent
    subst hcomponent
    exact h (Path.subset_of_mem_steps (Path.mem_steps_of_mem_components hmem) hmark)
  split
  · intro segment hsegment
    cases hsegment
  · rename_i file hfile
    have hfile' := hnames file (List.mem_of_getLast? hfile)
    intro segment hsegment
    rcases List.mem_append.mp hsegment with hdirectory | hsegment
    · exact hnames segment (List.mem_of_mem_dropLast hdirectory)
    · -- The last segment is the name of the file, or the name without its ending.
      unfold ModulePath.ofFileName at hsegment
      split at hsegment
      · cases hsegment
      · dsimp only at hsegment
        split at hsegment
        · rw [List.mem_singleton.mp hsegment, String.toList_ofList, List.mem_reverse]
          intro hmark
          exact hfile' (List.mem_reverse.mp (List.mem_of_mem_drop hmark))
        · rw [List.mem_singleton.mp hsegment]
          exact hfile'

private theorem nested_ofSourceFile (file : String) {relative : String}
    (h : closureMark ∉ relative.toList) (source : SourceFile) :
    Nested (sitesIn none 0 source.outline)
      (SourceUnit.ofSourceFile file (ModulePath.ofFile relative) source).bodies := by
  have hwalk := nested_bodiesIn source.outline [] (ModulePath.unmarked_ofFile h) .nil (.outside 0)
  rw [← bodiesOf_eq] at hwalk
  exact hwalk

/-- **The names of closures are read back as they were written.** Where neither the package nor the
path of the file has a mark, the bodies of a file are those of its outline, row by row and kind by
kind. The closures directly in a body are numbered from 1 in the order in which they are opened. The
name of every closure is known as such, the name of the innermost function around it is not, and is
what is read from the name of the closure; so in every program in which both names stand for a
retained function, linking closures connects the two. -/
theorem closure_names_read_back {text : String} {source : SourceFile}
    (hread : SourceFile.parse text = .ok source) (file : String) {relative package : String}
    (hrelative : closureMark ∉ relative.toList) (hpackage : closureMark ∉ package.toList) :
    ∃ u, SourceUnit.parse file relative text = .ok u ∧
      let sites := sitesIn none 0 source.outline
      sites.map (fun s => (s.row, s.closure)) = u.bodies.map (fun b => (b.row, b.closure)) ∧
      (∀ i k s b f, sites[i]? = some s → s.directlyIn k = true → u.bodies[i]? = some b →
        u.bodies[k]? = some f →
        b.path = closureName f.path ((sites.take i).countP (·.directlyIn k) + 1)) ∧
      ∀ i b, u.bodies[i]? = some b → b.closure = true →
        ∃ j f, InFunction sites i j ∧ u.bodies[j]? = some f ∧
          let inner := packageQualified package b.path
          let outer := packageQualified package f.path
          Function.isClosureName inner = true ∧ Function.isClosureName outer = false ∧
          Function.enclosingOf inner = outer ∧
          ∀ (p : Program) (c : Settings), c.linkClosures = true → (p.retained? c outer).isSome →
            (p.retained? c inner).isSome → (p.callGraph c).Adj outer inner := by
  have hnested := nested_ofSourceFile file hrelative source
  refine ⟨_, by rw [SourceUnit.parse, hread], hnested.kinds, ?_, ?_⟩
  · intro i k s b f hs hin hb hf
    simp only [Site.directlyIn, Bool.and_eq_true, decide_eq_true_eq] at hin
    obtain ⟨k', f', hk', hf', hpath⟩ := hnested.closures hs hb hin.1
    obtain rfl : k = k' := Option.some.inj (hin.2.symm.trans hk')
    obtain rfl : f = f' := Option.some.inj (hf.symm.trans hf')
    exact hpath
  · intro i b hb hclosure
    obtain ⟨j, f, ordinals, hin, hf, hfunction, hne, hpath⟩ := hnested.exists_function hb hclosure
    -- Names can be read back if the name of the function has no mark of its own.
    have hunmarked : closureMark ∉ (packageQualified package f.path).toList := by
      have hf' := hnested.functions f (List.mem_of_getElem? hf) hfunction
      have hcolons : closureMark ∉ ("::" : String).toList := by decide
      simp only [packageQualified, String.toList_append, List.mem_append, not_or]
      exact ⟨⟨hpackage, hcolons⟩, hf'⟩
    have hinner := packageQualified_closurePath package f.path ordinals
    rw [← hpath] at hinner
    have hname : Function.isClosureName (packageQualified package b.path) = true := by
      rw [hinner, isClosureName_closurePath hunmarked]
      simpa using hne
    have henclosing : Function.enclosingOf (packageQualified package b.path) =
        packageQualified package f.path := by
      rw [hinner, enclosingOf_closurePath hunmarked]
    refine ⟨j, f, hin, hf, hname, isClosureName_closurePath hunmarked [], henclosing, ?_⟩
    intro p c hlink houter hretained
    rw [callGraph_adj]
    exact ⟨houter, hretained, .inr ⟨hlink, closureOf_iff.mpr ⟨hname, henclosing⟩⟩⟩

/-- A closure that holds a function with a closure of its own and, behind it, another closure. The
call graph has an edge to the innermost one from the function that holds them all. -/
theorem closure_names_read_back_of_inner_function :
    let text := "fn f() \x7b || \x7b fn g() \x7b || 1; \x7d || 2 \x7d; \x7d"
    let c : Settings := ⟨"app", "/", [], [], [], true, .file⟩
    ∃ u, SourceUnit.parse "/a.rs" "a.rs" text = .ok u ∧
      u.bodies.map (fun b => (b.path, b.closure)) =
        [("a::f", false), ("a::f$1", true), ("a::g", false), ("a::g$1", true), ("a::f$1$1", true)] ∧
      ((link "app" [u]).callGraph c).Adj "app::a::f" "app::a::f$1$1" := by
  intro text c
  obtain ⟨source, hread⟩ : ∃ source, SourceFile.parse text = .ok source := by
    have hparsed : (SourceFile.parse text).toOption.isSome = true := by decide +kernel
    cases hp : SourceFile.parse text with
    | ok source => exact ⟨source, rfl⟩
    | error position =>
      rw [hp] at hparsed
      cases hparsed
  obtain ⟨u, hu, -, -, hclosures⟩ :=
    closure_names_read_back hread "/a.rs" (by decide : closureMark ∉ "a.rs".toList)
      (by decide : closureMark ∉ "app".toList)
  have hfacts : (SourceUnit.parse "/a.rs" "a.rs" text).toOption.map (fun u =>
      (u.bodies.map (fun b => (b.path, b.closure)),
        ((link "app" [u]).retained? c "app::a::f").isSome,
        ((link "app" [u]).retained? c "app::a::f$1$1").isSome)) =
      some ([("a::f", false), ("a::f$1", true), ("a::g", false), ("a::g$1", true),
        ("a::f$1$1", true)], true, true) := by
    decide +kernel
  rw [hu] at hfacts
  simp only [Except.toOption, Option.map_some, Option.some.injEq, Prod.mk.injEq] at hfacts
  obtain ⟨hbodies, houter, hinner⟩ := hfacts
  refine ⟨u, hu, hbodies, ?_⟩
  -- The last body is the second closure of the outer one.
  have hlast := congrArg (·[4]?) hbodies
  simp only [List.getElem?_map, Option.map_eq_some_iff, List.getElem?_cons_succ,
    List.getElem?_cons_zero, Prod.mk.injEq] at hlast
  obtain ⟨b, hb, hpath, hclosure⟩ := hlast
  obtain ⟨j, f, -, -, -, -, henclosing, hadj⟩ := hclosures 4 b hb hclosure
  have hname : packageQualified "app" "a::f$1$1" = "app::a::f$1$1" := by decide +kernel
  have hread : Function.enclosingOf "app::a::f$1$1" = "app::a::f" := by decide +kernel
  rw [hpath, hname, hread] at henclosing
  rw [hpath, hname, ← henclosing] at hadj
  exact hadj _ c rfl houter hinner

end CallReach.Source
