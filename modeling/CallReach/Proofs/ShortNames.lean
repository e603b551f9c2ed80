import CallReach.Proofs.ClosureNames
import Mathlib.Data.List.Infix

/-!
# Short names

A name is shortened in three stages, each of which drops everything up to the last occurrence of a
separator. What is left does not hold any of the separators, though they may overlap in the name,
and what is dropped ends in one of them. Ordinals hold no separators, so to shorten the name of a
closure is to name a closure after the short name.

## Key results

- `afterLast?_eq_none_iff`, `not_infix_of_afterLast?`: what follows the last occurrence of a
  separator
- `afterLast_append`: texts that share nothing with the separator may be appended before or after
- `shortOf_closurePath`: short names of closures
- `closure_names_keep_parts`: all that is read off from the name of a closure
-/

namespace CallReach

/-! ## The last occurrence of a separator -/

variable {sep cs more rest : List Char}

/-- `afterLast?` gives nothing exactly if the separator does not occur. -/
theorem afterLast?_eq_none_iff (hsep : sep ≠ []) : afterLast? sep cs = none ↔ ¬ sep <:+: cs := by
  induction cs with
  | nil => simp [afterLast?, List.infix_nil, hsep]
  | cons c cs ih =>
    rw [afterLast?, List.infix_cons_iff, not_or]
    -- An occurrence further behind is preferred to one at the front.
    cases hlast : afterLast? sep cs with
    | some rest =>
      have hoccurs : sep <:+: cs := by
        rw [hlast] at ih
        by_contra hnot
        exact absurd (ih.mpr hnot) (by simp)
      simp [hoccurs]
    | none =>
      have hnot := ih.mp hlast
      simp [hnot, List.isPrefixOf_iff_prefix]

/-- The separator and what `afterLast?` gives end the text. -/
private theorem suffix_of_afterLast? (h : afterLast? sep cs = some rest) : sep ++ rest <:+ cs := by
  fun_induction afterLast? sep cs with
  | case1 => cases h
  | case2 c cs rest' hlast ih =>
    cases h
    exact (ih hlast).trans (List.suffix_cons c cs)
  | case3 c cs hlast hstarts ih =>
    cases h
    obtain ⟨after, hafter⟩ := List.isPrefixOf_iff_prefix.mp hstarts
    rw [← hafter, List.drop_left]
  | case4 => cases h

/-- The separator does not occur in what `afterLast?` gives. -/
theorem not_infix_of_afterLast? (hsep : sep ≠ []) (h : afterLast? sep cs = some rest) :
    ¬ sep <:+: rest := by
  fun_induction afterLast? sep cs with
  | case1 => cases h
  | case2 c cs rest' hlast ih =>
    cases h
    exact ih hlast
  | case3 c cs hlast hstarts ih =>
    cases h
    -- What follows the occurrence at the front is part of the tail, in which there is none.
    obtain ⟨n, hn⟩ := Nat.exists_eq_succ_of_ne_zero (List.length_pos_iff.mpr hsep).ne'
    rw [hn, List.drop_succ_cons]
    intro hoccurs
    exact (afterLast?_eq_none_iff hsep).mp hlast (hoccurs.trans (List.drop_suffix n cs).isInfix)
  | case4 => cases h

/-- A text that shares nothing with the separator cannot complete an occurrence of it. -/
private theorem prefix_append_iff (hmore : ∀ c ∈ more, c ∉ sep) (c : Char) :
    sep <+: c :: cs ++ more ↔ sep <+: c :: cs := by
  constructor
  · rintro ⟨after, hafter⟩
    rcases List.append_eq_append_iff.mp hafter with ⟨between, hb, -⟩ | ⟨between, hb, hm⟩
    · exact ⟨between, hb.symm⟩
    · cases between with
      | nil => rw [hb, List.append_nil]
      | cons d between =>
        have hd : d ∈ more := by simp [hm]
        exact absurd (by simp [hb]) (hmore d hd)
  · intro h
    exact h.trans (List.prefix_append _ _)

/-- `afterLast?` of a text that goes on without any part of the separator. -/
private theorem afterLast?_append (hsep : sep ≠ []) (hmore : ∀ c ∈ more, c ∉ sep) :
    afterLast? sep (cs ++ more) = (afterLast? sep cs).map (· ++ more) := by
  induction cs with
  | nil =>
    rw [List.nil_append, afterLast?, Option.map_none, afterLast?_eq_none_iff hsep]
    intro hoccurs
    -- Were the separator in what is appended, they would share a character.
    obtain ⟨d, hd⟩ := List.exists_mem_of_ne_nil sep hsep
    exact hmore d (hoccurs.subset hd) hd
  | cons c cs ih =>
    rw [List.cons_append, afterLast?, afterLast?, ih]
    cases afterLast? sep cs with
    | some rest => rfl
    | none =>
      simp only [Option.map_none, List.isPrefixOf_iff_prefix, ← List.cons_append,
        prefix_append_iff hmore]
      split
      · rename_i hstarts
        rw [List.drop_append_of_le_length hstarts.length_le]
        rfl
      · rfl

/-- `afterLast` leaves what is appended as it is, if that shares nothing with the separator. -/
theorem afterLast_append (hsep : sep ≠ []) (hmore : ∀ c ∈ more, c ∉ sep) :
    afterLast sep (cs ++ more) = afterLast sep cs ++ more := by
  rw [afterLast, afterLast, afterLast?_append hsep hmore]
  cases afterLast? sep cs with
  | none => rfl
  | some rest => rfl

private theorem not_infix_afterLast (hsep : sep ≠ []) (cs : List Char) :
    ¬ sep <:+: afterLast sep cs := by
  rw [afterLast]
  cases hlast : afterLast? sep cs with
  | none => exact (afterLast?_eq_none_iff hsep).mp hlast
  | some rest => exact not_infix_of_afterLast? hsep hlast

/-! ## Qualifiers -/

/-- The texts that separate the segments of a qualified name. -/
def separators : List String := ["::", "/", "."]

private theorem toList_ne_nil_of_mem_separators {sep : String} (h : sep ∈ separators) :
    sep.toList ≠ [] := by
  revert sep
  decide

/-- What may stand before a short name: nothing, or a text that ends in a separator. -/
def IsQualifier (q : List Char) : Prop := q = [] ∨ ∃ sep ∈ separators, sep.toList <:+ q

/-- `IsQualifier` texts may be put one behind the other. -/
theorem IsQualifier.append {q r : List Char} (hq : IsQualifier q) (hr : IsQualifier r) :
    IsQualifier (q ++ r) := by
  rcases hr with rfl | ⟨sep, hsep, hends⟩
  · rw [List.append_nil]
    exact hq
  · exact .inr ⟨sep, hsep, hends.trans (List.suffix_append q r)⟩

/-- `afterLast` drops a qualifier. -/
private theorem exists_qualifier_afterLast {sep : String} (hsep : sep ∈ separators)
    (cs : List Char) :
    ∃ q, cs = q ++ afterLast sep.toList cs ∧ IsQualifier q := by
  cases hlast : afterLast? sep.toList cs with
  | none => exact ⟨[], by rw [afterLast, hlast]; rfl, .inl rfl⟩
  | some rest =>
    obtain ⟨before, hbefore⟩ := suffix_of_afterLast? hlast
    refine ⟨before ++ sep.toList, ?_, .inr ⟨sep, hsep, List.suffix_append before _⟩⟩
    rw [afterLast, hlast, Option.getD_some, List.append_assoc, hbefore]

/-! ## Stages -/

/-- A text without everything up to the last occurrence of each separator, one separator after the
other. -/
def shortened (seps : List String) (cs : List Char) : List Char :=
  seps.foldl (fun cs sep => afterLast sep.toList cs) cs

private theorem toList_shortOf (name : String) :
    (Function.shortOf name).toList = shortened separators name.toList := by
  simp [Function.shortOf, shortened, separators]

variable {seps : List String}

/-- `shortened` drops a qualifier, by induction over the stages. -/
private theorem exists_qualifier_shortened (hseps : seps ⊆ separators) (cs : List Char) :
    ∃ q, cs = q ++ shortened seps cs ∧ IsQualifier q := by
  induction seps generalizing cs with
  | nil => exact ⟨[], rfl, .inl rfl⟩
  | cons sep seps ih =>
    obtain ⟨hsep, hrest⟩ := List.cons_subset.mp hseps
    obtain ⟨q, hq, hqualifier⟩ := exists_qualifier_afterLast hsep cs
    obtain ⟨r, hr, hqualifier'⟩ := ih hrest (afterLast sep.toList cs)
    refine ⟨q ++ r, ?_, hqualifier.append hqualifier'⟩
    calc cs
      _ = q ++ afterLast sep.toList cs := hq
      _ = q ++ (r ++ shortened seps (afterLast sep.toList cs)) := by rw [← hr]
      _ = q ++ r ++ shortened (sep :: seps) cs := (List.append_assoc ..).symm

/-- Each separator is gone after its stage, and later stages only shorten the text. -/
private theorem not_infix_shortened (hseps : seps ⊆ separators) {sep : String} (hsep : sep ∈ seps)
    (cs : List Char) :
    ¬ sep.toList <:+: shortened seps cs := by
  induction seps generalizing cs with
  | nil => cases hsep
  | cons first seps ih =>
    obtain ⟨hfirst, hrest⟩ := List.cons_subset.mp hseps
    rcases List.mem_cons.mp hsep with rfl | hsep
    · -- What the later stages leave is an end of what this stage leaves.
      obtain ⟨q, hq, -⟩ := exists_qualifier_shortened hrest (afterLast sep.toList cs)
      have hsuffix : shortened seps (afterLast sep.toList cs) <:+ afterLast sep.toList cs :=
        ⟨q, hq.symm⟩
      intro hoccurs
      exact not_infix_afterLast (toList_ne_nil_of_mem_separators hfirst) cs
        (hoccurs.trans hsuffix.isInfix)
    · exact ih hrest hsep (afterLast first.toList cs)

/-- `shortened` leaves what is appended as it is, if that shares nothing with the separators. -/
private theorem shortened_append (hseps : seps ⊆ separators)
    (hmore : ∀ sep ∈ separators, ∀ c ∈ more, c ∉ sep.toList)
    (cs : List Char) : shortened seps (cs ++ more) = shortened seps cs ++ more := by
  induction seps generalizing cs with
  | nil => rfl
  | cons sep seps ih =>
    obtain ⟨hsep, hrest⟩ := List.cons_subset.mp hseps
    calc shortened (sep :: seps) (cs ++ more)
      _ = shortened seps (afterLast sep.toList (cs ++ more)) := rfl
      _ = shortened seps (afterLast sep.toList cs ++ more) := by
        rw [afterLast_append (toList_ne_nil_of_mem_separators hsep) (hmore sep hsep)]
      _ = shortened (sep :: seps) cs ++ more := ih hrest _

/-! ## Short names of closures -/

private theorem not_mem_separator_of_mem_ordinalMarks (ordinals : List Nat) :
    ∀ sep ∈ separators, ∀ c ∈ ordinalMarks ordinals, c ∉ sep.toList := by
  intro sep hsep c hc hmem
  -- A separator holds neither marks nor digits.
  have hsigns : separators.all (·.toList.all fun c => c ≠ closureMark ∧ c.isDigit = false) =
      true := by decide
  have hsign := List.all_eq_true.mp (List.all_eq_true.mp hsigns sep hsep) c hmem
  obtain ⟨hmark, hdigit⟩ := of_decide_eq_true hsign
  rcases mark_or_digit_of_mem_ordinalMarks hc with rfl | hordinal
  · exact hmark rfl
  · rw [hordinal] at hdigit
    cases hdigit

/-- `shortOf` keeps the ordinals of a `closurePath`. -/
theorem shortOf_closurePath (name : String) (ordinals : List Nat) :
    Function.shortOf (closurePath name ordinals) =
      closurePath (Function.shortOf name) ordinals := by
  apply String.toList_inj.mp
  rw [toList_shortOf, toList_closurePath, toList_closurePath, toList_shortOf]
  exact shortened_append (List.Subset.refl _) (not_mem_separator_of_mem_ordinalMarks ordinals)
    name.toList

/-- **What is read off from the name of a closure.** The function around it and the ordinals are, as
long as the name of the function has no mark; with no ordinals it is no closure. To shorten a name
and to name a closure in it may be done in any order. A short name is what follows a qualifier, and
holds no separator itself. -/
theorem closure_names_keep_parts :
    (∀ (name : String) (ordinals : List Nat), closureMark ∉ name.toList →
      Function.enclosingOf (closurePath name ordinals) = name ∧
      Function.isClosureName (closurePath name ordinals) = !ordinals.isEmpty) ∧
    (∀ (name name' : String) (ordinals ordinals' : List Nat), closureMark ∉ name.toList →
      closureMark ∉ name'.toList →
      closurePath name ordinals = closurePath name' ordinals' → name = name' ∧
        ordinals = ordinals') ∧
    (∀ (name : String) (ordinal : Nat),
      Function.shortOf (closureName name ordinal) = closureName (Function.shortOf name) ordinal) ∧
    ∀ name : String, (∃ q : String, name = q ++ Function.shortOf name ∧ IsQualifier q.toList) ∧
      ∀ sep ∈ separators, ¬ sep.toList <:+: (Function.shortOf name).toList := by
  have hunmarked : ∀ name : String, closureMark ∉ name.toList → EndsUnmarked name.toList :=
    fun name h => ⟨[], name.toList, rfl, h, .inl rfl⟩
  refine ⟨?_, ?_, ?_, ?_⟩
  · intro name ordinals h
    exact ⟨enclosingOf_closurePath h ordinals, isClosureName_closurePath h ordinals⟩
  · intro name name' ordinals ordinals' h h' heq
    exact closurePath_inj (hunmarked name h) (hunmarked name' h') heq
  · intro name ordinal
    exact shortOf_closurePath name [ordinal]
  · intro name
    obtain ⟨q, hq, hqualifier⟩ := exists_qualifier_shortened (List.Subset.refl _) name.toList
    rw [← toList_shortOf] at hq
    refine ⟨⟨String.ofList q, ?_, by rwa [String.toList_ofList]⟩, ?_⟩
    · apply String.toList_inj.mp
      rw [String.toList_append, String.toList_ofList, ← hq]
    · intro sep hsep
      rw [toList_shortOf]
      exact not_infix_shortened (List.Subset.refl _) hsep name.toList

/-- A name with overlapping separators, and a path with a mark before the last segment: the short
names keep the ordinals, and ordinals that run together without their marks are told apart. -/
theorem closure_names_keep_parts_of_overlap :
    Function.enclosingOf (closurePath "a/b.c:::h" [1, 12]) = "a/b.c:::h" ∧
    closurePath "a/b.c:::h" [1, 12] ≠ closurePath "a/b.c:::h" [11, 2] ∧
    Function.shortOf (closureName "x$1.y:::h" 12) = "h$12" ∧
    ∃ q : String, "x$1.y:::h" = q ++ "h" ∧ IsQualifier q.toList := by
  obtain ⟨hparts, hinj, hclosure, hshort⟩ := closure_names_keep_parts
  have hh : Function.shortOf "x$1.y:::h" = "h" := by decide +kernel
  refine ⟨(hparts _ _ (by decide)).1, ?_, ?_, ?_⟩
  · intro heq
    exact absurd (hinj _ _ _ _ (by decide) (by decide) heq).2 (by decide)
  · rw [hclosure, hh]
    decide +kernel
  · have hq := (hshort "x$1.y:::h").1
    rwa [hh] at hq

end CallReach
