import CallReach.Program
import Mathlib.Data.List.Basic

/-!
# Names of closures

A closure is named after what it stands in, level by level, so its name is that of a function with
the ordinals of all levels behind it. Both can be read off from the name again, whatever the modules
around the function are called, as long as the last segment of the function's own name has no mark.

## Key results

- `toList_closurePath`: the name of a closure, written out
- `closurePath_inj`: different functions or ordinals give different names
- `isClosureName_closurePath`, `enclosingOf_closurePath`: the function around a closure is read off
  its name
-/

namespace CallReach

/-- The name of a closure in a function, by the ordinals from the outermost closure to this one.
Without ordinals it is the name of the function. -/
def closurePath (name : String) (ordinals : List Nat) : String := ordinals.foldl closureName name

/-- The ordinals as they are written, each behind a mark. -/
def ordinalMarks (ordinals : List Nat) : List Char :=
  ordinals.flatMap fun n => closureMark :: Nat.toDigits 10 n

/-- `closurePath` adds ordinals one by one. -/
theorem closurePath_append (name : String) (ordinals more : List Nat) :
    closurePath name (ordinals ++ more) = closurePath (closurePath name ordinals) more := by
  rw [closurePath, List.foldl_append]
  rfl

/-- `closurePath` writes the ordinals behind the name of the function. -/
theorem toList_closurePath (name : String) (ordinals : List Nat) :
    (closurePath name ordinals).toList = name.toList ++ ordinalMarks ordinals := by
  induction ordinals generalizing name with
  | nil => rw [ordinalMarks, List.flatMap_nil, List.append_nil]; rfl
  | cons n ordinals ih =>
    have hname : (closureName name n).toList = name.toList ++ closureMark :: Nat.toDigits 10 n := by
      rw [closureName, String.toList_append, String.toList_append, Nat.toString_eq_repr,
        Nat.toList_repr, List.append_assoc]
      rfl
    show (closurePath (closureName name n) ordinals).toList = _
    rw [ih, hname, ordinalMarks, ordinalMarks, List.flatMap_cons, List.append_assoc]

/-! ## Reading ordinals -/

private theorem ne_closureMark_of_mem_toDigits {n : Nat} {c : Char} (h : c ∈ Nat.toDigits 10 n) :
    c ≠ closureMark := by
  rintro rfl
  exact absurd (Nat.isDigit_of_mem_toDigits (by decide) (by decide) h) (by decide)

/-- `ordinalMarks` are marks and digits. -/
theorem mark_or_digit_of_mem_ordinalMarks {ordinals : List Nat} {c : Char}
    (h : c ∈ ordinalMarks ordinals) :
    c = closureMark ∨ c.isDigit = true := by
  obtain ⟨n, _, hn⟩ := List.mem_flatMap.mp h
  rcases List.mem_cons.mp hn with hmark | hdigit
  · exact .inl hmark
  · exact .inr (Nat.isDigit_of_mem_toDigits (by decide) (by decide) hdigit)

private theorem colon_not_mem_ordinalMarks (ordinals : List Nat) : ':' ∉ ordinalMarks ordinals := by
  intro h
  rcases mark_or_digit_of_mem_ordinalMarks h with hmark | hdigit
  · exact absurd hmark (by decide)
  · exact absurd hdigit (by decide)

private theorem head_of_ordinalMarks_eq {ordinals : List Nat} {c : Char} {cs : List Char}
    (h : ordinalMarks ordinals = c :: cs) : c = closureMark := by
  cases ordinals with
  | nil => cases h
  | cons n ordinals =>
    rw [ordinalMarks, List.flatMap_cons, List.cons_append, List.cons.injEq] at h
    exact h.1.symm

/-- The first ordinal ends at the next mark. -/
private theorem takeWhile_toDigits_append (n : Nat) (ordinals : List Nat) :
    (Nat.toDigits 10 n ++ ordinalMarks ordinals).takeWhile (· ≠ closureMark) =
      Nat.toDigits 10 n := by
  have hdigits : ∀ c ∈ Nat.toDigits 10 n, decide (c ≠ closureMark) = true := by
    intro c hc
    exact decide_eq_true (ne_closureMark_of_mem_toDigits hc)
  rw [List.takeWhile_append_of_pos hdigits]
  cases ordinals with
  | nil => simp [ordinalMarks]
  | cons m ordinals => simp [ordinalMarks]

/-- The ordinals can be read off from `ordinalMarks`. -/
private theorem ordinalMarks_inj {ordinals ordinals' : List Nat}
    (h : ordinalMarks ordinals = ordinalMarks ordinals') : ordinals = ordinals' := by
  induction ordinals generalizing ordinals' with
  | nil =>
    cases ordinals' with
    | nil => rfl
    | cons n' ordinals' => cases h
  | cons n ordinals ih =>
    cases ordinals' with
    | nil => cases h
    | cons n' ordinals' =>
      have htail : Nat.toDigits 10 n ++ ordinalMarks ordinals =
          Nat.toDigits 10 n' ++ ordinalMarks ordinals' := (List.cons.injEq ..).mp h |>.2
      -- Both first ordinals end at the next mark, so their digits are the same.
      have hdigits : Nat.toDigits 10 n = Nat.toDigits 10 n' := by
        rw [← takeWhile_toDigits_append n ordinals, htail, takeWhile_toDigits_append]
      have hnumber : n = n' := by
        rw [← Nat.ofDigitChars_ten_toDigits (n := n), hdigits, Nat.ofDigitChars_ten_toDigits]
      rw [hdigits] at htail
      rw [hnumber, ih (List.append_cancel_left htail)]

/-! ## Reading names -/

/-- The last segment of a name has no mark. Segments before it may have any. -/
def EndsUnmarked (name : List Char) : Prop :=
  ∃ stem last, name = stem ++ last ∧ closureMark ∉ last ∧ (stem = [] ∨ stem.getLast? = some ':')

/-- A name that goes on with a mark and without a colon is not `EndsUnmarked`. -/
private theorem not_endsUnmarked_append {name more : List Char} (hcolon : ':' ∉ more)
    (hmark : closureMark ∈ more) : ¬ EndsUnmarked (name ++ more) := by
  rintro ⟨stem, last, heq, hlast, hstem⟩
  rcases List.append_eq_append_iff.mp heq with ⟨between, hs, hmore⟩ | ⟨between, -, hl⟩
  · -- The last segment starts inside what follows.
    cases between with
    | nil => exact hlast (by rwa [hmore] at hmark)
    | cons c between =>
      have hend : stem.getLast? = (c :: between).getLast? := by
        rw [hs, List.getLast?_append_of_ne_nil _ (List.cons_ne_nil c between)]
      rcases hstem with rfl | hstem
      · simp at hs
      · rw [hend] at hstem
        exact hcolon (by rw [hmore]; exact List.mem_append_left _ (List.mem_of_getLast? hstem))
  · exact hlast (by rw [hl]; exact List.mem_append_right between hmark)

/-- Nothing of `ordinalMarks` belongs to a name whose last segment has no mark. -/
private theorem eq_of_append_ordinalMarks {name between : List Char} {ordinals ordinals' : List Nat}
    (hunmarked : EndsUnmarked (name ++ between))
    (h : ordinalMarks ordinals = between ++ ordinalMarks ordinals') : between = [] := by
  cases between with
  | nil => rfl
  | cons c between =>
    have hmark := head_of_ordinalMarks_eq h
    have hcolon : ':' ∉ c :: between := by
      intro hmem
      exact colon_not_mem_ordinalMarks ordinals (by rw [h]; exact List.mem_append_left _ hmem)
    exact absurd hunmarked
      (not_endsUnmarked_append hcolon (by rw [hmark]; exact List.mem_cons_self))

/-- `closurePath` differs if the functions or the ordinals do. -/
theorem closurePath_inj {name name' : String} {ordinals ordinals' : List Nat}
    (hn : EndsUnmarked name.toList) (hn' : EndsUnmarked name'.toList)
    (h : closurePath name ordinals = closurePath name' ordinals') :
    name = name' ∧ ordinals = ordinals' := by
  have hlist : name.toList ++ ordinalMarks ordinals = name'.toList ++ ordinalMarks ordinals' := by
    rw [← toList_closurePath, ← toList_closurePath, h]
  have hname : name.toList = name'.toList := by
    -- One name is the beginning of the other, and what is between them belongs to the ordinals of
    -- the first.
    rcases List.append_eq_append_iff.mp hlist with ⟨between, hb, hm⟩ | ⟨between, hb, hm⟩
    · rw [hb] at hn' ⊢
      rw [eq_of_append_ordinalMarks hn' hm, List.append_nil]
    · rw [hb] at hn ⊢
      rw [eq_of_append_ordinalMarks hn hm, List.append_nil]
  rw [hname] at hlist
  exact ⟨String.toList_inj.mp hname, ordinalMarks_inj (List.append_cancel_left hlist)⟩

/-! ## The function around a closure -/

/-- A name without a mark is that of a closure as soon as there are ordinals behind it. -/
theorem isClosureName_closurePath {name : String} (h : closureMark ∉ name.toList)
    (ordinals : List Nat) :
    Function.isClosureName (closurePath name ordinals) = !ordinals.isEmpty := by
  rw [Function.isClosureName, toList_closurePath, Bool.eq_iff_iff, List.contains_iff_mem,
    List.mem_append]
  cases ordinals with
  | nil => simp [ordinalMarks, h]
  | cons n ordinals => simp [ordinalMarks]

/-- `enclosingOf` gives the function around a closure, however deep the closure is nested. -/
theorem enclosingOf_closurePath {name : String} (h : closureMark ∉ name.toList)
    (ordinals : List Nat) :
    Function.enclosingOf (closurePath name ordinals) = name := by
  have hname : ∀ c ∈ name.toList, decide (c ≠ closureMark) = true := by
    intro c hc
    apply decide_eq_true
    rintro rfl
    exact h hc
  have hmarks : (ordinalMarks ordinals).takeWhile (· ≠ closureMark) = [] := by
    cases ordinals with
    | nil => rfl
    | cons n ordinals => simp [ordinalMarks]
  rw [Function.enclosingOf, toList_closurePath, List.takeWhile_append_of_pos hname, hmarks,
    List.append_nil, String.ofList_toList]

end CallReach
