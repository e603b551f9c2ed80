import CallReach.Text.Blank
import Mathlib.Data.List.Basic

/-!
# Segments of paths

To write the segments of a path gives the path again, for every text. To cut a written path gives
the segments again if none has a colon, and also for every end of a path that has been cut: text
such as `a:::b` has the segments `a` and `:b`, so a segment may start with a colon, but what was cut
off before it does not change how the rest is read.

## Key results

- `joinSegments_segments`: every text is what its segments are written as
- `segments_joinSegments`: segments without colons can be read back
- `segments_joinSegments_of_isSuffix`: so can the ends of a path
-/

namespace CallReach.Text

/-! ## Lists of characters -/

private theorem cutAtColons_ne_nil (cs : List Char) : cutAtColons cs ≠ [] := by
  fun_cases cutAtColons cs <;> simp

/-- For `cutAtColons`, a character that is no colon belongs to the first piece. -/
private theorem cutAtColons_cons {c : Char} (h : ':' ≠ c) {cs : List Char} {piece : List Char}
    {pieces : List (List Char)} (hcut : cutAtColons cs = piece :: pieces) :
    cutAtColons (c :: cs) = (c :: piece) :: pieces := by
  rw [cutAtColons.eq_3 c cs (fun _ hc _ => h hc.symm), hcut]

/-- The pieces of `cutAtColons` with double colons between them are the text. -/
private theorem intercalate_cutAtColons (cs : List Char) :
    [':', ':'].intercalate (cutAtColons cs) = cs := by
  fun_induction cutAtColons cs with
  | case1 => rfl
  | case2 cs ih =>
    -- Two colons end the piece, and at least one more follows.
    obtain ⟨piece, pieces, hcut⟩ := List.exists_cons_of_ne_nil (cutAtColons_ne_nil cs)
    rw [hcut, List.intercalate_cons_cons, ← hcut, ih]
    rfl
  | case3 c cs _ hcut ih => exact absurd hcut (cutAtColons_ne_nil cs)
  | case4 c cs _ piece pieces hcut ih =>
    rw [hcut] at ih
    rw [← ih]
    cases pieces with
    | nil => rw [List.intercalate_singleton, List.intercalate_singleton]
    | cons next pieces =>
      rw [List.intercalate_cons_cons, List.intercalate_cons_cons]
      rfl

/-- `cutAtColons` cuts what comes after the first piece in the same way without it. -/
private theorem cutAtColons_intercalate_tail {cs : List Char} {piece : List Char}
    {pieces : List (List Char)} (hcut : cutAtColons cs = piece :: pieces) (hne : pieces ≠ []) :
    cutAtColons ([':', ':'].intercalate pieces) = pieces := by
  fun_induction cutAtColons cs generalizing piece with
  | case1 =>
    cases hcut
    exact absurd rfl hne
  | case2 cs ih =>
    cases hcut
    rw [intercalate_cutAtColons]
  | case3 c cs _ hnil ih => exact absurd hnil (cutAtColons_ne_nil cs)
  | case4 c cs _ first rest hrest ih =>
    cases hcut
    exact ih hrest

/-- `cutAtColons` cuts every end of the pieces of a text in the same way without what is before
it. -/
private theorem cutAtColons_intercalate_of_isSuffix {ending : List (List Char)} (hne : ending ≠ [])
    (cs : List Char) (h : ending <:+ cutAtColons cs) :
    cutAtColons ([':', ':'].intercalate ending) = ending := by
  -- The induction is on the number of pieces: each step drops the first one.
  induction hlen : (cutAtColons cs).length generalizing cs with
  | zero => exact absurd (List.length_eq_zero_iff.mp hlen) (cutAtColons_ne_nil cs)
  | succ n ih =>
    obtain ⟨piece, pieces, hcut⟩ := List.exists_cons_of_ne_nil (cutAtColons_ne_nil cs)
    rw [hcut, List.suffix_cons_iff] at h
    rcases h with rfl | h
    · rw [← hcut, intercalate_cutAtColons]
    · have hpieces : pieces ≠ [] := by
        rintro rfl
        exact hne (List.suffix_nil.mp h)
      have htail := cutAtColons_intercalate_tail hcut hpieces
      rw [hcut, List.length_cons, Nat.succ.injEq] at hlen
      exact ih _ (by rwa [htail]) (by rw [htail, hlen])

private theorem cutAtColons_append {piece : List Char} (h : ':' ∉ piece) (cs : List Char) :
    cutAtColons (piece ++ ':' :: ':' :: cs) = piece :: cutAtColons cs := by
  induction piece with
  | nil => rfl
  | cons c piece ih =>
    rw [List.mem_cons, not_or] at h
    exact cutAtColons_cons h.1 (ih h.2)

private theorem cutAtColons_of_not_mem {piece : List Char} (h : ':' ∉ piece) :
    cutAtColons piece = [piece] := by
  induction piece with
  | nil => rfl
  | cons c piece ih =>
    rw [List.mem_cons, not_or] at h
    exact cutAtColons_cons h.1 (ih h.2)

/-- Pieces without colons can be read back. -/
private theorem cutAtColons_intercalate {pieces : List (List Char)} (hne : pieces ≠ [])
    (h : ∀ piece ∈ pieces, ':' ∉ piece) : cutAtColons ([':', ':'].intercalate pieces) = pieces := by
  induction pieces with
  | nil => exact absurd rfl hne
  | cons piece pieces ih =>
    rw [List.forall_mem_cons] at h
    cases pieces with
    | nil => rw [List.intercalate_singleton, cutAtColons_of_not_mem h.1]
    | cons next pieces =>
      rw [List.intercalate_cons_cons, List.append_assoc, List.cons_append, List.cons_append,
        List.nil_append, cutAtColons_append h.1, ih (List.cons_ne_nil _ _) h.2]

/-! ## Texts -/

theorem segments_ne_nil (s : String) : segments s ≠ [] := by
  rw [segments, ne_eq, List.map_eq_nil_iff]
  exact cutAtColons_ne_nil s.toList

/-- `joinSegments` by characters. -/
theorem toList_joinSegments (ss : List String) :
    (joinSegments ss).toList = [':', ':'].intercalate (ss.map String.toList) :=
  String.toList_intercalate

private theorem map_toList_segments (s : String) :
    (segments s).map String.toList = cutAtColons s.toList := by
  rw [segments, List.map_map]
  exact List.map_id'' (fun cs => String.toList_ofList) _

/-- Every text is what its `segments` are written as. -/
theorem joinSegments_segments (s : String) : joinSegments (segments s) = s := by
  rw [← String.toList_inj, toList_joinSegments, map_toList_segments, intercalate_cutAtColons]

private theorem segments_joinSegments_of_cut {ss : List String}
    (h : cutAtColons ([':', ':'].intercalate (ss.map String.toList)) = ss.map String.toList) :
    segments (joinSegments ss) = ss := by
  rw [segments, toList_joinSegments, h, List.map_map]
  exact List.map_id'' (fun s => String.ofList_toList) _

/-- `segments` reads segments without colons back. -/
theorem segments_joinSegments {ss : List String} (hne : ss ≠ []) (h : ∀ s ∈ ss, ':' ∉ s.toList) :
    segments (joinSegments ss) = ss := by
  apply segments_joinSegments_of_cut
  apply cutAtColons_intercalate
  · rwa [ne_eq, List.map_eq_nil_iff]
  · rwa [List.forall_mem_map]

/-- `segments` reads the ends of a path back, colons or not. -/
theorem segments_joinSegments_of_isSuffix {ending : List String} (hne : ending ≠ []) {s : String}
    (h : ending <:+ segments s) : segments (joinSegments ending) = ending := by
  apply segments_joinSegments_of_cut
  apply cutAtColons_intercalate_of_isSuffix _ s.toList
  · rw [← map_toList_segments]
    exact h.map _
  · rwa [ne_eq, List.map_eq_nil_iff]

end CallReach.Text
