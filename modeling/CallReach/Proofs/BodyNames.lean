import CallReach.Proofs.ClosureNames
import CallReach.Proofs.IndexCorrect
import CallReach.Proofs.ModuleCorrect
import Mathlib.Data.List.Nodup

/-!
# Which bodies share a name

A body is named by the modules, types and traits around it and by its own name, and a closure by the
body that it stands in and an ordinal. Two functions may well be declared with the same path, for
instance in two `impl` blocks of one type, in two function bodies, or in two files that stand for
the same module. This is the only way in which bodies come to share a name: closures add no
collision of their own.

## Key results

- `path_of_mem_bodiesIn`: what the bodies of a forest are called
- `nodup_paths_bodiesIn`: different declarations give different paths of bodies
- `link_names_nodup_iff`: when all functions of a package have different names, and what follows for
  the restriction to a module
- `link_names_not_nodup_of_two_impls`: two implementations for one type that declare the same name
-/

namespace CallReach.Source

/-! ## Declarations -/

mutual

/-- The paths with which functions are declared in an outline. The function that a declaration
stands in is no part of its path. -/
def Outline.declarations (scope : ModulePath) : Outline → List String
  | .closure _ inside | .invocation (some inside) => declarationsIn scope inside
  | .function name _ _ inside => scope.qualify name.text :: declarationsIn scope inside
  | .owner type inside => declarationsIn (scope ++ [type.text]) inside
  | .module name inside => declarationsIn (scope ++ [name.text]) inside
  | .mention _ | .method _ | .requirement .. | .moduleFile .. | .invocation none => []

/-- The paths with which functions are declared in a forest, in reading order. -/
def declarationsIn (scope : ModulePath) : Forest → List String
  | [] => []
  | o :: os => o.declarations scope ++ declarationsIn scope os

end

/-- The bodies of `bodiesIn` that are no closures are those of `declarationsIn`. -/
private theorem paths_filter_not_closure (os : Forest) (scope : ModulePath) (owners : List String)
    (holder : Option Holder) (before : Nat) :
    ((bodiesIn scope owners holder before os).filter (!·.closure)).map (·.path) =
      declarationsIn scope os := by
  induction os using Forest.induction generalizing scope owners holder before with
  | nil => rfl
  | cons o os hinside hos =>
    -- Every case goes by what is inside; only a function has a path of its own.
    have ho : ((o.bodies scope owners holder before).filter (!·.closure)).map (·.path) =
        o.declarations scope := by
      cases o with
      | mention | method | requirement | moduleFile => rfl
      | closure row inside =>
        cases holder with
        | none => exact hinside scope owners none 0
        | some h => exact hinside scope owners _ 0
      | function name row associated inside =>
        exact congrArg (scope.qualify name.text :: ·) (hinside scope owners _ 0)
      | owner type inside => exact hinside _ _ holder before
      | module name inside => exact hinside _ owners holder before
      | invocation arguments =>
        cases arguments with
        | some arguments => exact hinside scope owners holder before
        | none => rfl
    rw [bodiesIn, declarationsIn, List.filter_append, List.map_append, ho, hos]

/-- A qualified name is `EndsUnmarked`, whatever the modules are called: its last segment is a
`Name`. -/
private theorem endsUnmarked_qualify (scope : ModulePath) (name : Name) :
    EndsUnmarked (scope.qualify name.text).toList := by
  rw [ModulePath.qualify, Text.joinSegments]
  cases scope with
  | nil =>
    rw [List.nil_append, String.intercalate_singleton]
    exact ⟨[], name.text.toList, rfl, name.unmarked, .inl rfl⟩
  | cons s scope =>
    rw [String.intercalate_append_of_ne_nil (List.cons_ne_nil s scope) (List.cons_ne_nil _ _),
      String.intercalate_singleton, String.toList_append, String.toList_append]
    exact ⟨_, name.text.toList, rfl, name.unmarked, .inr (by simp)⟩

/-- The paths of `declarationsIn` are `EndsUnmarked`. -/
private theorem endsUnmarked_of_mem_declarationsIn (os : Forest) {scope : ModulePath} {d : String}
    (hd : d ∈ declarationsIn scope os) : EndsUnmarked d.toList := by
  induction os using Forest.induction generalizing scope with
  | nil => cases hd
  | cons o os hinside hos =>
    rw [declarationsIn, List.mem_append] at hd
    rcases hd with hd | hd
    · cases o with
      | mention | method | requirement | moduleFile => cases hd
      | function name row associated inside =>
        rcases List.mem_cons.mp hd with rfl | hd
        · exact endsUnmarked_qualify scope name
        · exact hinside hd
      | closure | owner | module => exact hinside hd
      | invocation arguments =>
        cases arguments with
        | some arguments => exact hinside hd
        | none => cases hd
    · exact hos hd

/-! ## Paths of bodies -/

/-- `path` is that of one of the declared functions or of a closure in it, or that of a closure in
the holder whose ordinal there is above `low` and not above `high`. -/
def PathIn (declarations : List String) (holder : Option Holder) (low high : Nat) (path : String) :
    Prop :=
  (∃ d ∈ declarations, ∃ ordinals, path = closurePath d ordinals) ∨
  ∃ h, holder = some h ∧ ∃ n rest, low < n ∧ n ≤ high ∧ path = closurePath h.path (n :: rest)

namespace PathIn

variable {declarations declarations' : List String} {holder : Option Holder}
  {low low' high high' : Nat} {path : String}

theorem mono (h : PathIn declarations holder low high path) (hd : declarations ⊆ declarations')
    (hlow : low' ≤ low) (hhigh : high ≤ high') : PathIn declarations' holder low' high' path := by
  rcases h with ⟨d, hmem, hpath⟩ | ⟨h, hh, n, rest, hn, hn', hpath⟩
  · exact .inl ⟨d, hd hmem, hpath⟩
  · exact .inr ⟨h, hh, n, rest, by omega, by omega, hpath⟩

/-- What is `PathIn` a body is `PathIn` what the body is in. -/
private theorem of_body {k : Nat} (body : Holder)
    (hbody : ∀ ordinals, PathIn declarations' holder low' high' (closurePath body.path ordinals))
    (hd : declarations ⊆ declarations') (h : PathIn declarations (some body) 0 k path) :
    PathIn declarations' holder low' high' path := by
  rcases h with ⟨d, hmem, hpath⟩ | ⟨_, hh, n, rest, _, _, rfl⟩
  · exact .inl ⟨d, hd hmem, hpath⟩
  · cases hh
    exact hbody (n :: rest)

end PathIn

/-- The bodies of an outline are `PathIn` its declarations and the body around it, if those inside
are. -/
private theorem path_of_mem_bodies {o : Outline} {scope : ModulePath} {owners : List String}
    {holder : Option Holder} {before : Nat}
    (hinside : ∀ (scope : ModulePath) (owners : List String) (holder : Option Holder)
      (before : Nat), ∀ b ∈ bodiesIn scope owners holder before o.inside,
        PathIn (declarationsIn scope o.inside) holder before (before + closuresIn o.inside) b.path)
    {b : Body} (hb : b ∈ o.bodies scope owners holder before) :
    PathIn (o.declarations scope) holder before (before + o.closures) b.path := by
  cases o with
  | mention | method | requirement | moduleFile => cases hb
  | closure row inside =>
    cases holder with
    | none =>
      have hin := hinside scope owners none 0 b hb
      rcases hin with hleft | ⟨h, hh, _⟩
      · exact .inl hleft
      · cases hh
    | some h =>
      -- All that is in the closure has its ordinal as the first one in the holder.
      have hbody : ∀ ordinals, PathIn (declarationsIn scope inside) (some h) before (before + 1)
          (closurePath (closureName h.path (before + 1)) ordinals) := by
        intro ordinals
        exact .inr ⟨h, rfl, before + 1, ordinals, by omega, le_refl _, rfl⟩
      rcases List.mem_cons.mp hb with rfl | hb
      · exact hbody []
      · exact PathIn.of_body ⟨_, h.associated⟩ hbody (List.Subset.refl _)
          (hinside scope owners _ 0 b hb)
  | function name row associated inside =>
    have hbody : ∀ ordinals,
        PathIn (scope.qualify name.text :: declarationsIn scope inside) holder before before
          (closurePath (scope.qualify name.text) ordinals) := by
      intro ordinals
      exact .inl ⟨_, List.mem_cons_self, ordinals, rfl⟩
    rcases List.mem_cons.mp hb with rfl | hb
    · exact hbody []
    · exact PathIn.of_body ⟨_, associated⟩ hbody (List.subset_cons_self _ _)
        (hinside scope owners _ 0 b hb)
  | owner type inside => exact hinside _ _ holder before b hb
  | module name inside => exact hinside _ owners holder before b hb
  | invocation arguments =>
    cases arguments with
    | some arguments => exact hinside scope owners holder before b hb
    | none => cases hb

/-- The bodies of `bodiesIn` are `PathIn` the declarations of the forest and the body around it. -/
theorem path_of_mem_bodiesIn (os : Forest) (scope : ModulePath) (owners : List String)
    (holder : Option Holder) (before : Nat) :
    ∀ b ∈ bodiesIn scope owners holder before os,
      PathIn (declarationsIn scope os) holder before (before + closuresIn os) b.path := by
  induction os using Forest.induction generalizing scope owners holder before with
  | nil =>
    intro b hb
    cases hb
  | cons o os hinside hos =>
    intro b hb
    rw [bodiesIn, List.mem_append] at hb
    rw [declarationsIn, closuresIn, ← Nat.add_assoc]
    rcases hb with hb | hb
    · exact (path_of_mem_bodies hinside hb).mono (List.subset_append_left _ _) (le_refl _)
        (Nat.le_add_right _ _)
    · exact (hos scope owners holder (before + o.closures) b hb).mono (List.subset_append_right _ _)
        (Nat.le_add_right _ _) (le_refl _)

/-! ## Different paths -/

/-- The path is that of a function or of a closure in it, and the function is none of the given
ones. -/
def Apart (declarations : List String) (path : String) : Prop :=
  ∃ d ordinals, path = closurePath d ordinals ∧ EndsUnmarked d.toList ∧ d ∉ declarations

/-- A closure in a body is `Apart` from what the body is apart from. -/
theorem Apart.closureName {declarations : List String} {path : String} (h : Apart declarations path)
    (n : Nat) : Apart declarations (closureName path n) := by
  obtain ⟨d, ordinals, rfl, hd, hnot⟩ := h
  exact ⟨d, ordinals ++ [n], (closurePath_append d ordinals [n]).symm, hd, hnot⟩

theorem Apart.mono {declarations declarations' : List String} {path : String}
    (h : Apart declarations path) (hsub : declarations' ⊆ declarations) :
    Apart declarations' path := by
  obtain ⟨d, ordinals, hpath, hd, hnot⟩ := h
  exact ⟨d, ordinals, hpath, hd, fun hmem => hnot (hsub hmem)⟩

section Different

variable {declarations declarations' : List String} {holder : Option Holder} {low mid high : Nat}
  {path : String}

/-- Closures in a body that is `Apart` from declarations have none of their paths. -/
private theorem Apart.closurePath_ne (h : Apart declarations path) {d : String}
    (hd : d ∈ declarations) (hunmarked : EndsUnmarked d.toList) (ordinals ordinals' : List Nat) :
    closurePath path ordinals ≠ closurePath d ordinals' := by
  obtain ⟨d', front, rfl, hd', hnot⟩ := h
  intro heq
  rw [← closurePath_append] at heq
  exact hnot ((closurePath_inj hd' hunmarked heq).1 ▸ hd)

/-- A closure in such a body is known by its ordinals there. -/
private theorem Apart.ordinals_inj (h : Apart declarations path) {ordinals ordinals' : List Nat}
    (heq : closurePath path ordinals = closurePath path ordinals') : ordinals = ordinals' := by
  obtain ⟨d, front, rfl, hd, _⟩ := h
  rw [← closurePath_append, ← closurePath_append] at heq
  exact List.append_cancel_left (closurePath_inj hd hd heq).2

/-- A path is not `PathIn` two lists of declarations that share none, with ordinals that come one
after the other. -/
private theorem PathIn.disjoint (h : PathIn declarations holder low mid path)
    (h' : PathIn declarations' holder mid high path)
    (hdisjoint : declarations.Disjoint declarations')
    (hunmarked : ∀ d ∈ declarations ++ declarations', EndsUnmarked d.toList)
    (hholder : ∀ x ∈ holder, Apart (declarations ++ declarations') x.path) : False := by
  have hleft : ∀ d ∈ declarations, d ∈ declarations ++ declarations' :=
    fun d hd => List.mem_append_left _ hd
  have hright : ∀ d ∈ declarations', d ∈ declarations ++ declarations' :=
    fun d hd => List.mem_append_right _ hd
  -- Each of the two may come from a declaration or from the holder. Two declarations differ, the
  -- holder is apart from both, and the ordinals in the holder are on different sides of `mid`.
  rcases h with ⟨d, hd, ordinals, rfl⟩ | ⟨x, rfl, n, rest, _, hn, rfl⟩
  · rcases h' with ⟨d', hd', ordinals', heq⟩ | ⟨x, rfl, n, rest, _, _, heq⟩
    · have hsame :=
        (closurePath_inj (hunmarked d (hleft d hd)) (hunmarked d' (hright d' hd')) heq).1
      exact hdisjoint hd (hsame ▸ hd')
    · exact (hholder x rfl).closurePath_ne (hleft d hd) (hunmarked d (hleft d hd)) _ _ heq.symm
  · rcases h' with ⟨d', hd', ordinals', heq⟩ | ⟨x', hx', n', rest', hn', _, heq⟩
    · exact (hholder x rfl).closurePath_ne (hright d' hd') (hunmarked d' (hright d' hd')) _ _ heq
    · cases hx'
      have hsame := (hholder x rfl).ordinals_inj heq
      rw [List.cons.injEq] at hsame
      omega

private theorem PathIn.ne_holder {body : Body}
    (h : PathIn declarations (some body.holder) low high path)
    (hunmarked : ∀ d ∈ declarations, EndsUnmarked d.toList) (hbody : Apart declarations body.path) :
    path ≠ body.path := by
  rintro rfl
  rcases h with ⟨d, hd, ordinals, heq⟩ | ⟨x, hx, n, rest, _, _, heq⟩
  · exact hbody.closurePath_ne hd (hunmarked d hd) [] ordinals heq
  · cases hx
    have hsame : [] = n :: rest := hbody.ordinals_inj heq
    cases hsame

end Different

/-- The paths of the bodies of the forest are different wherever its declarations are, and the body
around it stands for none of them. -/
def DifferentPaths (os : Forest) : Prop :=
  ∀ (scope : ModulePath) (owners : List String) (holder : Option Holder) (before : Nat),
    (declarationsIn scope os).Nodup → (∀ x ∈ holder, Apart (declarationsIn scope os) x.path) →
    ((bodiesIn scope owners holder before os).map (·.path)).Nodup

/-- A body and the bodies inside have different paths, if the latter satisfy `DifferentPaths`. -/
theorem DifferentPaths.nodup_cons {inside : Forest} (hinside : DifferentPaths inside)
    {scope : ModulePath} (owners : List String) (body : Body)
    (hnodup : (declarationsIn scope inside).Nodup)
    (hapart : Apart (declarationsIn scope inside) body.path) :
    (body.path :: (bodiesIn scope owners (some body.holder) 0 inside).map (·.path)).Nodup := by
  refine List.nodup_cons.mpr ⟨?_, ?_⟩
  · intro hmem
    obtain ⟨b, hb, hpath⟩ := List.mem_map.mp hmem
    have hin := path_of_mem_bodiesIn _ _ _ _ _ b hb
    exact hin.ne_holder (fun d hd => endsUnmarked_of_mem_declarationsIn _ hd) hapart hpath
  · apply hinside scope owners _ 0 hnodup
    intro x hx
    cases hx
    exact hapart

/-- The bodies of an outline have different paths, if `DifferentPaths` holds inside. -/
private theorem DifferentPaths.nodup_bodies {o : Outline} (hinside : DifferentPaths o.inside)
    {scope : ModulePath} (owners : List String) {holder : Option Holder} (before : Nat)
    (hnodup : (o.declarations scope).Nodup)
    (hholder : ∀ x ∈ holder, Apart (o.declarations scope) x.path) :
    ((o.bodies scope owners holder before).map (·.path)).Nodup := by
  cases o with
  | mention | method | requirement | moduleFile => exact List.nodup_nil
  | closure row inside =>
    cases holder with
    | none =>
      apply hinside scope owners none 0 hnodup
      intro x hx
      cases hx
    | some h =>
      -- The closure is apart from what is declared inside, since its holder is.
      have hapart := (hholder h rfl).closureName (before + 1)
      exact hinside.nodup_cons owners ⟨_, row, h.associated, true, {}⟩ hnodup hapart
  | function name row associated inside =>
    obtain ⟨hnot, hnodup_inside⟩ := List.nodup_cons.mp hnodup
    -- The function is not declared again inside of itself.
    have hapart : Apart (declarationsIn scope inside) (scope.qualify name.text) :=
      ⟨_, [], rfl, endsUnmarked_qualify scope name, hnot⟩
    exact hinside.nodup_cons owners ⟨_, row, associated, false, {}⟩ hnodup_inside hapart
  | owner type inside => exact hinside _ _ holder before hnodup hholder
  | module name inside => exact hinside _ owners holder before hnodup hholder
  | invocation arguments =>
    cases arguments with
    | some arguments => exact hinside scope owners holder before hnodup hholder
    | none => exact List.nodup_nil

/-- Different declarations give different paths of bodies, by induction over outlines and
forests. -/
theorem nodup_paths_bodiesIn (os : Forest) : DifferentPaths os := by
  induction os using Forest.induction with
  | nil =>
    intro scope owners holder before _ _
    exact List.nodup_nil
  | cons o os hinside hos =>
    intro scope owners holder before hnodup hholder
    have hunmarked : ∀ d ∈ declarationsIn scope (o :: os), EndsUnmarked d.toList :=
      fun d hd => endsUnmarked_of_mem_declarationsIn (o :: os) hd
    rw [declarationsIn] at hnodup hholder hunmarked
    obtain ⟨hnodup_o, hnodup_os, hdisjoint⟩ := List.nodup_append'.mp hnodup
    have hfirst := hinside.nodup_bodies owners before hnodup_o
      (fun x hx => (hholder x hx).mono (List.subset_append_left _ _))
    have hrest := hos scope owners holder (before + o.closures) hnodup_os
      (fun x hx => (hholder x hx).mono (List.subset_append_right _ _))
    rw [bodiesIn, List.map_append]
    refine List.nodup_append'.mpr ⟨hfirst, hrest, ?_⟩
    intro path hpath hpath'
    obtain ⟨b, hb, rfl⟩ := List.mem_map.mp hpath
    obtain ⟨b', hb', hsame⟩ := List.mem_map.mp hpath'
    -- The closures in `os` have ordinals behind those of `o`.
    have hin := path_of_mem_bodies (path_of_mem_bodiesIn o.inside) hb
    have hin' := path_of_mem_bodiesIn os scope owners holder _ b' hb'
    rw [hsame] at hin'
    exact hin.disjoint hin' hdisjoint hunmarked hholder

/-! ## Several files -/

/-- A file that has been read: its path, its path below the source directory, and what is in it. -/
structure ReadFile where
  path : String
  relative : String
  source : SourceFile

namespace ReadFile

/-- The unit of the file. -/
def unit (f : ReadFile) : SourceUnit := .ofSourceFile f.path (ModulePath.ofFile f.relative) f.source

/-- The paths with which functions are declared in the file. -/
def declarations (f : ReadFile) : List String :=
  declarationsIn (ModulePath.ofFile f.relative) f.source.outline

private theorem unit_bodies (f : ReadFile) :
    f.unit.bodies = bodiesIn (ModulePath.ofFile f.relative) [] none 0 f.source.outline :=
  bodiesOf_eq _ _

/-- The `declarations` of a file are the paths of its bodies that are no closures. -/
private theorem declarations_eq (f : ReadFile) :
    f.declarations = (f.unit.bodies.filter (!·.closure)).map (·.path) := by
  rw [unit_bodies, paths_filter_not_closure, declarations]

/-- The bodies of a file are those of its `declarations` and closures in them, as there is no body
around. -/
private theorem exists_declaration (f : ReadFile) {b : Body} (hb : b ∈ f.unit.bodies) :
    ∃ d ∈ f.declarations, ∃ ordinals, b.path = closurePath d ordinals := by
  rw [unit_bodies] at hb
  rcases path_of_mem_bodiesIn _ _ _ _ _ b hb with hdeclared | ⟨h, hh, _⟩
  · exact hdeclared
  · cases hh

end ReadFile

/-- The bodies of several files have different paths exactly if their `declarations` are
different. -/
private theorem nodup_paths_iff (files : List ReadFile) :
    (files.flatMap fun f => f.unit.bodies.map (·.path)).Nodup ↔
      (files.flatMap (·.declarations)).Nodup := by
  rw [List.nodup_flatMap, List.nodup_flatMap]
  constructor
  · rintro ⟨heach, hapart⟩
    have hsub : ∀ f : ReadFile, f.declarations.Sublist (f.unit.bodies.map (·.path)) := by
      intro f
      rw [f.declarations_eq]
      exact List.filter_sublist.map _
    refine ⟨fun f hf => (heach f hf).sublist (hsub f), hapart.imp ?_⟩
    intro f g hdisjoint d hd hd'
    exact hdisjoint ((hsub f).subset hd) ((hsub g).subset hd')
  · rintro ⟨heach, hapart⟩
    refine ⟨?_, hapart.imp ?_⟩
    · intro f hf
      rw [f.unit_bodies]
      apply nodup_paths_bodiesIn _ _ _ _ _ (heach f hf)
      intro x hx
      cases hx
    · intro f g hdisjoint path hpath hpath'
      obtain ⟨b, hb, rfl⟩ := List.mem_map.mp hpath
      obtain ⟨b', hb', hsame⟩ := List.mem_map.mp hpath'
      obtain ⟨d, hd, ordinals, hb⟩ := f.exists_declaration hb
      obtain ⟨d', hd', ordinals', hb'⟩ := g.exists_declaration hb'
      have heq : closurePath d ordinals = closurePath d' ordinals' := by rw [← hb, ← hb', hsame]
      -- A path shows which declaration it belongs to.
      have hname := (closurePath_inj (endsUnmarked_of_mem_declarationsIn _ hd)
        (endsUnmarked_of_mem_declarationsIn _ hd') heq).1
      exact hdisjoint hd (hname ▸ hd')

/-- The functions of a linked package have different names exactly if no two functions are declared
with the same path. Then the restriction to a module drops none for its name, and every retained
function stands for its own name; where all functions are retained, it is only then that none is
dropped. -/
theorem link_names_nodup_iff (package : String) (files : List ReadFile) :
    let p := link package (files.map (·.unit))
    let declared := files.flatMap (·.declarations)
    ((p.functions.map (·.name)).Nodup ↔ declared.Nodup) ∧
    (declared.Nodup → ∀ c : Settings, (Module.counts c p).duplicates = 0 ∧
      ∀ f ∈ p.functions, f.retention c = .retained → p.retained? c f.name = some f) ∧
    ∀ c : Settings, (∀ f ∈ p.functions, f.retention c = .retained) →
      ((Module.counts c p).duplicates = 0 ↔ declared.Nodup) := by
  intro p declared
  have hnames : (p.functions.map (·.name)).Nodup ↔ declared.Nodup := by
    rw [link_names, List.flatMap_map, List.nodup_map_iff (packageQualified_injective package)]
    exact nodup_paths_iff files
  refine ⟨hnames, ?_, ?_⟩
  · intro hdeclared c
    -- A duplicate is a retained function whose name has come before.
    have hretained : ((Module.retainedIn c p).map (·.name)).Nodup :=
      (hnames.mpr hdeclared).sublist (List.filter_sublist.map _)
    refine ⟨Module.duplicates_eq_zero_iff.mpr hretained, ?_⟩
    intro f hf hf'
    exact (Program.retained?_eq_some_iff hretained).mpr
      ⟨Module.mem_retainedIn_iff.mpr ⟨hf, hf'⟩, rfl⟩
  · intro c hall
    have hwhole : Module.retainedIn c p = p.functions := by
      rw [Module.retainedIn, List.filter_eq_self]
      intro f hf
      exact decide_eq_true (hall f hf)
    rw [Module.duplicates_eq_zero_iff, hwhole, hnames]

/-- Two implementations for one type that both declare `from` give two functions one name, and the
second one is dropped. -/
theorem link_names_not_nodup_of_two_impls :
    let text := "struct T;\nimpl From<u8> for T \x7b fn from(_: u8) -> T \x7b T \x7d \x7d\n" ++
      "impl From<u16> for T \x7b fn from(_: u16) -> T \x7b T \x7d \x7d\n"
    let c : Settings := ⟨"app", "/work", [], [], [], true, .file⟩
    ((SourceUnit.parse "/work/src/lib.rs" "lib.rs" text).toOption.map fun u =>
      let p := link "app" [u]
      (p.functions.map fun f => (f.name, f.line), (Module.counts c p).duplicates,
        (p.retained? c "app::T::from").map (·.line))) =
      some ([("app::T::from", 2), ("app::T::from", 3)], 1, some 2) := by
  decide +kernel

end CallReach.Source
