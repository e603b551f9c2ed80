import CallReach.Proofs.IndexCorrect

/-!
# Calls inside inline modules

Functions are named by the modules around them, but the paths in a file are resolved from the module
that the file is, also those inside a module that is written out in the file. So a function `g` of
an inline module may call its neighbour `h`, and the call may still be resolved to something else or
to nothing. Here it is said exactly which of these calls are linked.

## Key results

- `mem_references_iff_looksCallable`: which mentions a body records
- `InlineModule.mem_resolve_name_iff`, `mem_resolve_self_iff`, `mem_resolve_super_iff`: when `h`,
  `self::h` and `super::k` name the functions that are meant
- `InlineModule.link_calls_iff`: when the calls are linked
- `link_calls_lacks_self_call`: a call by `self::h` that is lost
-/

namespace CallReach.Source

private theorem segments_qualify {m : ModulePath} (hm : ∀ s ∈ m, ':' ∉ s.toList) (name : Name) :
    Text.segments (m.qualify name.text) = m ++ [name.text] := by
  apply Text.segments_joinSegments
  · simp
  · rw [List.forall_mem_append, List.forall_mem_singleton]
    exact ⟨hm, name.undivided⟩

/-! ## Mentions -/

/-- A path as it is written. -/
def written (path : List Name) : String := Text.joinSegments (path.map (·.text))

/-- `written` can be split into its names again. -/
private theorem segments_written {path : List Name} (hne : path ≠ []) :
    Text.segments (written path) = path.map (·.text) := by
  apply Text.segments_joinSegments
  · rwa [ne_eq, List.map_eq_nil_iff]
  · rw [List.forall_mem_map]
    exact fun name _ => name.undivided

private theorem Name.text_injective : Function.Injective Name.text := by
  rintro ⟨s, _, _⟩ ⟨t, _, _⟩ h
  cases h
  rfl

private theorem looksCallable_congr {path path' : List Name} (h : path.getLast? = path'.getLast?) :
    looksCallable path = looksCallable path' := by
  unfold looksCallable
  rw [h]

/-- `mentioned?` keeps the last segment, also where it replaces a leading `Self`. -/
private theorem getLast?_of_mentioned? {owners : List String}
    (howners : ∀ s ∈ owners, ':' ∉ s.toList) {path : List Name} {text : String}
    (h : mentioned? owners path = some (.path text)) :
    looksCallable path = true ∧ (Text.segments text).getLast? = path.getLast?.map (·.text) := by
  unfold mentioned? at h
  split at h
  · rename_i hcallable
    refine ⟨hcallable, ?_⟩
    obtain ⟨ss, hss, htext⟩ := Option.map_eq_some_iff.mp h
    cases htext
    cases path with
    | nil => cases hcallable
    | cons first rest =>
      rw [List.map_cons, Collector.ownedPath?] at hss
      split at hss
      · rename_i hself
        obtain ⟨owner, howner, rfl⟩ := Option.map_eq_some_iff.mp hss
        -- The name `Self` alone is not callable.
        have hne : rest ≠ [] := by
          rintro rfl
          have hname : first = ⟨"Self", by decide, by decide⟩ := Name.text_injective hself
          rw [hname] at hcallable
          exact absurd hcallable (by decide +kernel)
        have hundivided : ∀ s ∈ owner :: rest.map (·.text), ':' ∉ s.toList := by
          rw [List.forall_mem_cons, List.forall_mem_map]
          exact ⟨howners owner (List.mem_of_mem_head? howner), fun name _ => name.undivided⟩
        obtain ⟨next, rest, rfl⟩ := List.exists_cons_of_ne_nil hne
        rw [Text.segments_joinSegments (List.cons_ne_nil _ _) hundivided, List.map_cons,
          List.getLast?_cons_cons, List.getLast?_cons_cons, ← List.map_cons, List.getLast?_map]
      · cases hss
        rw [← List.map_cons, ← written, segments_written (List.cons_ne_nil _ _), List.getLast?_map]
  · cases h

/-- The paths in `referencesIn` are callable. -/
private theorem looksCallable_of_mem_referencesIn (os : Forest) {owners : List String}
    (howners : ∀ s ∈ owners, ':' ∉ s.toList) {path : List Name} (hne : path ≠ [])
    (h : Reference.path (written path) ∈ referencesIn owners os) : looksCallable path = true := by
  induction os using Forest.induction generalizing owners with
  | nil => cases h
  | cons o os hinside hos =>
    rw [referencesIn, List.mem_append] at h
    rcases h with h | h
    · cases o with
      | mention written =>
        -- The mention may be another path, but one with the same last segment.
        obtain ⟨hcallable, hlast⟩ := getLast?_of_mentioned? howners (Option.mem_toList.mp h)
        rw [segments_written hne, List.getLast?_map] at hlast
        rw [looksCallable_congr (Option.map_injective Name.text_injective hlast), hcallable]
      | method name =>
        rw [Outline.references, List.mem_singleton] at h
        cases h
      | closure | function | requirement | moduleFile => cases h
      | owner type inside =>
        refine hinside ?_ h
        rw [List.forall_mem_cons]
        exact ⟨type.undivided, howners⟩
      | module name inside => exact hinside howners h
      | invocation arguments =>
        cases arguments with
        | some arguments => exact hinside howners h
        | none => cases h
    · exact hos howners h

private theorem mem_referencesIn_of_mem {os : Forest} {o : Outline} (ho : o ∈ os)
    {owners : List String} {r : Reference} (hr : r ∈ o.references owners) :
    r ∈ referencesIn owners os := by
  induction os with
  | nil => cases ho
  | cons first os ih =>
    rw [referencesIn, List.mem_append]
    rcases List.mem_cons.mp ho with rfl | ho
    · exact .inl hr
    · exact .inr (ih ho)

/-- A mention that stands directly in a body without owners is in `referencesIn` exactly if it
`looksCallable`. -/
theorem mem_references_iff_looksCallable {os : Forest} {first : Name} {rest : List Name}
    (hmem : .mention (first :: rest) ∈ spreadIn os) (hself : first.text ≠ "Self") :
    Reference.path (written (first :: rest)) ∈ referencesIn [] os ↔
      looksCallable (first :: rest) = true := by
  constructor
  · intro h
    exact looksCallable_of_mem_referencesIn os (by simp) (List.cons_ne_nil _ _) h
  · intro hcallable
    have hmention : Reference.path (written (first :: rest)) ∈
        Outline.references [] (.mention (first :: rest)) := by
      rw [Outline.references, Option.mem_toList, mentioned?, if_pos hcallable, List.map_cons,
        Collector.ownedPath?, if_neg hself]
      rfl
    rw [← (bodiesIn_spreadIn os).2.1]
    exact mem_referencesIn_of_mem hmem hmention

/-! ## Declared functions -/

/-- A function that is no part of an `impl` or `trait` block is declared in the forest. -/
def Declares (os : Forest) (name : Name) : Prop :=
  ∃ line inside, .function name line false inside ∈ spreadIn os

/-- The body of a declared function. -/
def functionBody (scope : ModulePath) (name : Name) (row : Nat) (inside : Forest) : Body :=
  ({ path := scope.qualify name.text, row, associated := false, closure := false } : Body).refer
    (referencesIn [] inside)

/-- A body that an outline of `spreadIn os` has, whatever closures come before it, is in
`bodiesIn`. -/
private theorem mem_bodiesIn_of_mem {os : Forest} {o : Outline} (ho : o ∈ spreadIn os)
    {scope : ModulePath} {owners : List String} {holder : Option Holder} {b : Body}
    (hb : ∀ before, b ∈ o.bodies scope owners holder before) (before : Nat) :
    b ∈ bodiesIn scope owners holder before os := by
  rw [← (bodiesIn_spreadIn os).2.2]
  -- Only membership in the list matters from here on.
  generalize spreadIn os = os at ho
  induction os generalizing before with
  | nil => cases ho
  | cons first os ih =>
    rw [bodiesIn, List.mem_append]
    rcases List.mem_cons.mp ho with rfl | ho
    · exact .inl (hb before)
    · exact .inr (ih _ ho)

private theorem functionBody_mem_bodiesIn {os : Forest} {name : Name} {line : Nat} {inside : Forest}
    (hf : .function name line false inside ∈ spreadIn os) (scope : ModulePath) (before : Nat) :
    functionBody scope name line inside ∈ bodiesIn scope [] none before os :=
  mem_bodiesIn_of_mem hf (fun _ => List.mem_cons_self) before

/-- A path is `Answered` by a free function exactly if it ends the path of the function. -/
private theorem answered_iff_of_mem {units : List SourceUnit} {b : Body}
    (hb : b ∈ units.flatMap (·.bodies)) (hfunction : b.closure = false)
    (hfree : b.associated = false) (path : String) :
    Answered units path b.path ↔ Text.segments path <:+ Text.segments b.path := by
  constructor
  · rintro ⟨b', _, ⟨_, hsuffix, _⟩, hpath⟩
    rwa [hpath] at hsuffix
  · intro hsuffix
    refine ⟨b, hb, ⟨hfunction, hsuffix, ?_⟩, rfl⟩
    intro hassociated
    rw [hfree] at hassociated
    cases hassociated

/-- The linked package has a call between the functions with the given paths. -/
def Linked (package : String) (units : List SourceUnit) (caller target : String) : Prop :=
  ⟨packageQualified package caller, packageQualified package target⟩ ∈ (link package units).calls

/-- The call to `target` comes from another reference than the reference `r` of the body `b`. -/
def LinkedOtherwise (units : List SourceUnit) (u : SourceUnit) (b : Body) (r : Reference)
    (target : String) : Prop :=
  ∃ v ∈ units, ∃ b' ∈ v.bodies, b'.path = b.path ∧ ∃ s ∈ b'.references,
    ¬ (v = u ∧ b' = b ∧ s = r) ∧ target ∈ (FunctionIndex.build units).resolve v s

/-- A call is linked for the reference `r`, or `LinkedOtherwise`. -/
private theorem linked_iff_of_mem (package : String) {units : List SourceUnit} {u : SourceUnit}
    (hu : u ∈ units) {b : Body} (hb : b ∈ u.bodies) (r : Reference) {target : String} :
    Linked package units b.path target ↔
      target ≠ b.path ∧ ((r ∈ b.references ∧ target ∈ (FunctionIndex.build units).resolve u r) ∨
        LinkedOtherwise units u b r target) := by
  rw [Linked, mem_link_calls_iff]
  refine and_congr_right fun _ => ⟨?_, ?_⟩
  · rintro ⟨v, hv, b', hb', hpath, s, hs, htarget⟩
    by_cases hsame : v = u ∧ b' = b ∧ s = r
    · obtain ⟨rfl, rfl, rfl⟩ := hsame
      exact .inl ⟨hs, htarget⟩
    · exact .inr ⟨v, hv, b', hb', hpath, s, hs, hsame, htarget⟩
  · rintro (⟨hr, htarget⟩ | ⟨v, hv, b', hb', hpath, s, hs, _, htarget⟩)
    · exact ⟨u, hu, b, hb, rfl, r, hr, htarget⟩
    · exact ⟨v, hv, b', hb', hpath, s, hs, htarget⟩

/-! ## Inline modules -/

/-- A module that is written out at the top level of a file. No segment of the path of the file's
own module has a colon. -/
structure InlineModule (units : List SourceUnit) where
  file : String
  /-- The module that the file is. -/
  outer : ModulePath
  source : SourceFile
  name : Name
  items : Forest
  unit_mem : SourceUnit.ofSourceFile file outer source ∈ units
  items_mem : .module name items ∈ spreadIn source.outline
  undivided : ∀ s ∈ outer, ':' ∉ s.toList

namespace InlineModule

variable {units : List SourceUnit} (i : InlineModule units)

/-- The file of the module. -/
def unit : SourceUnit := .ofSourceFile i.file i.outer i.source

/-- The path of the module. -/
def inner : ModulePath := i.outer ++ [i.name.text]

/-- The words that name no function. -/
def reserved : List String := ["crate", "self", "super", "Self"]

/-- The word for the module that a path is in. -/
def selfWord : Name := ⟨"self", by decide, by decide⟩

/-- The word for the module around it. -/
def superWord : Name := ⟨"super", by decide, by decide⟩

private theorem inner_undivided : ∀ s ∈ i.inner, ':' ∉ s.toList := by
  rw [inner, List.forall_mem_append, List.forall_mem_singleton]
  exact ⟨i.undivided, i.name.undivided⟩

variable {i}

private theorem functionBody_mem_inner {name : Name} {line : Nat} {inside : Forest}
    (hf : .function name line false inside ∈ spreadIn i.items) :
    functionBody i.inner name line inside ∈ i.unit.bodies := by
  have hitems := fun before => functionBody_mem_bodiesIn hf i.inner before
  show _ ∈ bodiesOf i.outer i.source.outline
  rw [bodiesOf_eq]
  exact mem_bodiesIn_of_mem i.items_mem hitems 0

private theorem functionBody_mem_outer {name : Name} {line : Nat} {inside : Forest}
    (hf : .function name line false inside ∈ spreadIn i.source.outline) :
    functionBody i.outer name line inside ∈ i.unit.bodies := by
  show _ ∈ bodiesOf i.outer i.source.outline
  rw [bodiesOf_eq]
  exact functionBody_mem_bodiesIn hf i.outer 0

/-- A path is `Answered` by a function of the module exactly if it ends the function's path. -/
private theorem answered_inner_iff {h : Name} (hh : Declares i.items h) {path : String} :
    Answered units path (i.inner.qualify h.text) ↔
      Text.segments path <:+ i.outer ++ [i.name.text] ++ [h.text] := by
  obtain ⟨line, inside, hf⟩ := hh
  have hmem := List.mem_flatMap.mpr ⟨i.unit, i.unit_mem, functionBody_mem_inner hf⟩
  have hiff := answered_iff_of_mem hmem rfl rfl path
  rwa [functionBody, Body.refer, segments_qualify i.inner_undivided] at hiff

/-- A path is `Answered` by a function at the top level of the file exactly if it ends the
function's path. -/
private theorem answered_outer_iff {k : Name} (hk : Declares i.source.outline k) {path : String} :
    Answered units path (i.outer.qualify k.text) ↔ Text.segments path <:+ i.outer ++ [k.text] := by
  obtain ⟨line, inside, hf⟩ := hk
  have hmem := List.mem_flatMap.mpr ⟨i.unit, i.unit_mem, functionBody_mem_outer hf⟩
  have hiff := answered_iff_of_mem hmem rfl rfl path
  rwa [functionBody, Body.refer, segments_qualify i.undivided] at hiff

/-- `resolvePath` takes a name in the module for a name of the file's own module. -/
private theorem resolvePath_name {h : Name} (hreserved : h.text ∉ reserved)
    (hfree : i.unit.imports.find? h.text = none) :
    i.unit.imports.resolvePath i.outer (written [h]) = i.outer ++ [h.text] := by
  have hsegments : Text.segments (written [h]) = [h.text] :=
    segments_written (List.cons_ne_nil h [])
  have hanchor : i.outer.anchor? [h.text] = none := by
    simp only [reserved, List.mem_cons, List.not_mem_nil, or_false, not_or] at hreserved
    rw [ModulePath.anchor?, if_neg hreserved.1, if_neg hreserved.2.1, if_neg hreserved.2.2.1]
  rw [Imports.resolvePath, hsegments]
  simp only [hfree, hanchor, List.isEmpty_nil, if_true]
  rfl

/-- `resolvePath` looks for `self::h` in the file's own module. -/
private theorem resolvePath_self (h : Name) (hfree : i.unit.imports.find? "self" = none) :
    i.unit.imports.resolvePath i.outer (written [selfWord, h]) = i.outer ++ [h.text] := by
  have hsegments : Text.segments (written [selfWord, h]) = ["self", h.text] :=
    segments_written (List.cons_ne_nil selfWord [h])
  have hanchor : i.outer.anchor? ["self", h.text] = some (i.outer ++ [h.text]) := rfl
  rw [Imports.resolvePath, hsegments]
  simp only [hfree, hanchor]

/-- `resolvePath` looks for `super::k` in the module around the file's own one. -/
private theorem resolvePath_super {k : Name} (hk : k.text ≠ "super")
    (hfree : i.unit.imports.find? "super" = none) :
    i.unit.imports.resolvePath i.outer (written [superWord, k]) =
      i.outer.dropLast ++ [k.text] := by
  have hsegments : Text.segments (written [superWord, k]) = ["super", k.text] :=
    segments_written (List.cons_ne_nil superWord [k])
  have hanchor : i.outer.anchor? ["super", k.text] = some (i.outer.dropLast ++ [k.text]) := by
    have habove : [k.text].takeWhile (· = "super") = [] := by simp [hk]
    rw [ModulePath.anchor?, if_neg (by decide), if_neg (by decide), if_pos rfl, habove,
      List.dropLast_eq_take]
    rfl
  rw [Imports.resolvePath, hsegments]
  simp only [hfree, hanchor]

/-- What `resolve` gives for a path of the file, if `resolvePath` makes it `m ++ [name]`. -/
private theorem mem_resolve_iff {text target : String} {m : ModulePath} {name : String}
    (hresolved : i.unit.imports.resolvePath i.outer text = m ++ [name]) :
    target ∈ (FunctionIndex.build units).resolve i.unit (.path text) ↔
      Answered units (m.qualify name) target ∨
        (Unanswered units (m.qualify name) ∧ Answered units text target) := by
  show target ∈ (FunctionIndex.build units).resolve i.unit (.path text) ↔
    Answered units (Text.joinSegments (m ++ [name])) target ∨
      (Unanswered units (Text.joinSegments (m ++ [name])) ∧ Answered units text target)
  rw [← hresolved]
  exact FunctionIndex.mem_resolve_path_iff

/-- The name `h` is resolved to the function of the module exactly if the file's own module has no
other segments than the name of the module, or if nothing is found in the file's own module. -/
theorem mem_resolve_name_iff {h : Name} (hh : Declares i.items h) (hreserved : h.text ∉ reserved)
    (hfree : i.unit.imports.find? h.text = none) :
    i.inner.qualify h.text ∈ (FunctionIndex.build units).resolve i.unit (.path (written [h])) ↔
      (∀ s ∈ i.outer, s = i.name.text) ∨ Unanswered units (i.outer.qualify h.text) := by
  have hends : [h.text] <:+ i.outer ++ [i.name.text] ++ [h.text] := List.suffix_append _ _
  rw [mem_resolve_iff (resolvePath_name hreserved hfree), answered_inner_iff hh,
    answered_inner_iff hh, segments_qualify i.undivided, segments_written (List.cons_ne_nil h []),
    List.suffix_append_self_iff, List.suffix_concat_self_iff]
  exact or_congr_right (and_iff_left hends)

/-- The path `self::h` is resolved to the function of the module exactly if the file's own module
has no other segments than the name of the module, or if that name is `self` and nothing is found in
the file's own module. -/
theorem mem_resolve_self_iff {h : Name} (hh : Declares i.items h)
    (hfree : i.unit.imports.find? "self" = none) :
    i.inner.qualify h.text ∈ (FunctionIndex.build units).resolve i.unit
      (.path (written [selfWord, h])) ↔
      (∀ s ∈ i.outer, s = i.name.text) ∨
        (Unanswered units (i.outer.qualify h.text) ∧ i.name.text = "self") := by
  have hends : ["self", h.text] <:+ i.outer ++ [i.name.text] ++ [h.text] ↔
      i.name.text = "self" := by
    rw [← List.singleton_append, List.suffix_append_self_iff,
      List.singleton_suffix_iff_getLast?_eq_some, List.getLast?_concat, Option.some.injEq]
  rw [mem_resolve_iff (resolvePath_self h hfree), answered_inner_iff hh,
    answered_inner_iff hh, segments_qualify i.undivided,
    segments_written (List.cons_ne_nil selfWord [h]), List.suffix_append_self_iff,
    List.suffix_concat_self_iff]
  exact or_congr_right (and_congr_right fun _ => hends)

/-- The path `super::k` is resolved to the function of the file's own module exactly if all segments
of that module are the same, or if the last one is `super` and nothing is found in the module around
it. -/
theorem mem_resolve_super_iff {k : Name} (hk : Declares i.source.outline k)
    (hsuper : k.text ≠ "super") (hfree : i.unit.imports.find? "super" = none) :
    i.outer.qualify k.text ∈ (FunctionIndex.build units).resolve i.unit
      (.path (written [superWord, k])) ↔
      (∀ s ∈ i.outer, i.outer.getLast? = some s) ∨
        (Unanswered units (ModulePath.qualify i.outer.dropLast k.text) ∧
          i.outer.getLast? = some "super") := by
  have hundivided : ∀ s ∈ i.outer.dropLast, ':' ∉ s.toList :=
    fun s hs => i.undivided s (List.dropLast_subset _ hs)
  have hends : ["super", k.text] <:+ i.outer ++ [k.text] ↔ i.outer.getLast? = some "super" := by
    rw [← List.singleton_append, List.suffix_append_self_iff,
      List.singleton_suffix_iff_getLast?_eq_some]
  rw [mem_resolve_iff (resolvePath_super hsuper hfree), answered_outer_iff hk,
    answered_outer_iff hk, segments_qualify hundivided,
    segments_written (List.cons_ne_nil superWord [k]), List.suffix_append_self_iff,
    List.dropLast_suffix_iff]
  exact or_congr_right (and_congr_right fun _ => hends)

/-- `Linked` for a mention in a function of the module. -/
private theorem linked_mention_iff (package : String) {g : Name} {line : Nat} {inside : Forest}
    (hg : .function g line false inside ∈ spreadIn i.items) {first : Name} {rest : List Name}
    (hmention : .mention (first :: rest) ∈ spreadIn inside) (hself : first.text ≠ "Self")
    (target : String) :
    Linked package units (i.inner.qualify g.text) target ↔
      target ≠ i.inner.qualify g.text ∧
        ((looksCallable (first :: rest) = true ∧
          target ∈ (FunctionIndex.build units).resolve i.unit (.path (written (first :: rest)))) ∨
        LinkedOtherwise units i.unit (functionBody i.inner g line inside)
          (.path (written (first :: rest))) target) := by
  have hrecorded : .path (written (first :: rest)) ∈
      (functionBody i.inner g line inside).references ↔
      looksCallable (first :: rest) = true := by
    rw [← mem_references_iff_looksCallable hmention hself, functionBody,
      Body.mem_refer_references_iff]
    exact or_iff_left Std.TreeSet.not_mem_emptyc
  rw [← hrecorded]
  exact linked_iff_of_mem package i.unit_mem (functionBody_mem_inner hg) _

private theorem qualify_ne_iff {h g : Name} : i.inner.qualify h.text ≠ i.inner.qualify g.text ↔
    h ≠ g := by
  rw [not_iff_not]
  constructor
  · intro heq
    have hsegments := congrArg Text.segments heq
    rw [segments_qualify i.inner_undivided, segments_qualify i.inner_undivided] at hsegments
    have hlast := List.append_cancel_left hsegments
    rw [List.cons.injEq] at hlast
    exact Name.text_injective hlast.1
  · rintro rfl
    rfl

private theorem qualify_outer_ne (k g : Name) :
    i.outer.qualify k.text ≠ i.inner.qualify g.text := by
  intro heq
  have hsegments := congrArg Text.segments heq
  rw [segments_qualify i.undivided, segments_qualify i.inner_undivided] at hsegments
  have hlength := congrArg List.length hsegments
  simp [inner] at hlength

variable (i)

/-- Which calls of a function `g` in an inline module are linked to the functions that are meant.
Apart from modules that repeat a name, a neighbour is reached by its name if nothing is found under
this name in the file's own module, it is reached by `self` only where the file is the root of the
package, and a function of the file is reached by `super` only where the file is the root or
directly below it. Recursive calls and names that do not look like those of functions are never
linked. All this is about the one mention: the same call may be linked for another reference. -/
theorem link_calls_iff (package : String) {g : Name} {line : Nat} {inside : Forest}
    (hg : .function g line false inside ∈ spreadIn i.items) :
    (∀ h, Declares i.items h → .mention [h] ∈ spreadIn inside → h.text ∉ reserved →
      i.unit.imports.find? h.text = none →
      (Linked package units (i.inner.qualify g.text) (i.inner.qualify h.text) ↔ h ≠ g ∧
        ((looksCallable [h] = true ∧
            ((∀ s ∈ i.outer, s = i.name.text) ∨ Unanswered units (i.outer.qualify h.text))) ∨
          LinkedOtherwise units i.unit (functionBody i.inner g line inside) (.path (written [h]))
            (i.inner.qualify h.text)))) ∧
    (∀ h, Declares i.items h → .mention [selfWord, h] ∈ spreadIn inside →
      i.unit.imports.find? "self" = none →
      (Linked package units (i.inner.qualify g.text) (i.inner.qualify h.text) ↔ h ≠ g ∧
        ((looksCallable [selfWord, h] = true ∧
            ((∀ s ∈ i.outer, s = i.name.text) ∨
              (Unanswered units (i.outer.qualify h.text) ∧ i.name.text = "self"))) ∨
          LinkedOtherwise units i.unit (functionBody i.inner g line inside)
            (.path (written [selfWord, h])) (i.inner.qualify h.text)))) ∧
    (∀ k, Declares i.source.outline k → .mention [superWord, k] ∈ spreadIn inside →
      k.text ≠ "super" → i.unit.imports.find? "super" = none →
      (Linked package units (i.inner.qualify g.text) (i.outer.qualify k.text) ↔
        ((looksCallable [superWord, k] = true ∧
            ((∀ s ∈ i.outer, i.outer.getLast? = some s) ∨
              (Unanswered units (ModulePath.qualify i.outer.dropLast k.text) ∧
                i.outer.getLast? = some "super"))) ∨
          LinkedOtherwise units i.unit (functionBody i.inner g line inside)
            (.path (written [superWord, k])) (i.outer.qualify k.text)))) := by
  refine ⟨?_, ?_, ?_⟩
  · intro h hh hmention hreserved hfree
    -- A name that is reserved would not be recorded as it is written.
    have hself : h.text ≠ "Self" := by
      rintro heq
      exact hreserved (by rw [heq]; decide)
    rw [linked_mention_iff package hg hmention hself, qualify_ne_iff,
      mem_resolve_name_iff hh hreserved hfree]
  · intro h hh hmention hfree
    rw [linked_mention_iff package hg hmention (by decide), qualify_ne_iff,
      mem_resolve_self_iff hh hfree]
  · intro k hk hmention hsuper hfree
    rw [linked_mention_iff package hg hmention (by decide), and_iff_right (qualify_outer_ne k g),
      mem_resolve_super_iff hk hsuper hfree]

/-- In a file below the root of the package, a neighbour is reached by its name, and a function of
the file by `super`, here in the arguments of an invocation. -/
theorem link_calls_iff_of_lone_file :
    let g : Name := ⟨"g", by decide, by decide⟩
    let h : Name := ⟨"h", by decide, by decide⟩
    let k : Name := ⟨"k", by decide, by decide⟩
    let m : Name := ⟨"m", by decide, by decide⟩
    let inside : Forest := [.mention [h], .invocation (some [.mention [superWord, k]])]
    let items : Forest := [.function g 2 false inside, .function h 3 false []]
    let source : SourceFile := ⟨[.module m items, .function k 5 false []], []⟩
    let calls := (link "app" [.ofSourceFile "/work/src/a.rs" ["a"] source]).calls
    .function g 2 false inside ∈ spreadIn items ∧ ⟨"app::a::m::g", "app::a::m::h"⟩ ∈ calls ∧
      ⟨"app::a::m::g", "app::a::k"⟩ ∈ calls := by
  intro g h k m inside items source calls
  let i : InlineModule [.ofSourceFile "/work/src/a.rs" ["a"] source] :=
    ⟨"/work/src/a.rs", ["a"], source, m, items, List.mem_singleton_self _, List.mem_cons_self,
      by decide⟩
  have hg : .function g 2 false inside ∈ spreadIn items := List.mem_cons_self
  obtain ⟨hname, _, hsuper⟩ := link_calls_iff i "app" hg
  -- The file's own module has no `h`, so the name is looked for anywhere.
  have hunanswered : ∀ b ∈ i.unit.bodies, ¬ b.Answers "a::h" := by decide +kernel
  refine ⟨hg, ?_, ?_⟩
  · refine (hname h ⟨3, [], by simp [i, items, spreadIn, Outline.spread]⟩ List.mem_cons_self
      (by decide) rfl).mpr ⟨by decide, .inl ⟨by decide +kernel, .inr ?_⟩⟩
    intro b hb
    exact hunanswered b (by simpa [i, unit] using hb)
  · exact (hsuper k ⟨5, [], by simp [i, source, spreadIn, Outline.spread]⟩
      (by simp [inside, spreadIn, Outline.spread]) (by decide) rfl).mpr
      (.inl ⟨by decide +kernel, .inl (by decide)⟩)

end InlineModule

/-- The function `m::g` calls its neighbour as `self::h`, and the call is lost. -/
theorem link_calls_lacks_self_call :
    let text := "mod m \x7b\n    fn g() \x7b self::h(); \x7d\n    fn h() \x7b\x7d\n\x7d\n"
    ((SourceUnit.parse "/work/src/a.rs" "a.rs" text).toOption.map fun u =>
      let p := link "app" [u]
      (p.functions.map (·.name), p.calls)) = some (["app::a::m::g", "app::a::m::h"], []) := by
  decide +kernel

end CallReach.Source
