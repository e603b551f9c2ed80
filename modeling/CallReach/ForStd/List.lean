/-!
# List lemmas for the standard library

Generic lemmas about `List.countP`, `List.modify`, `List.takeWhile`, `List.eraseDups` and suffixes
that do not speak about programs. Candidates for upstreaming to Lean's standard library.
-/

namespace List

variable {α : Type}

/-- `countP` is strictly smaller for a narrower predicate that fails where the wider one holds. -/
theorem countP_lt_countP {p q : α → Bool} {l : List α} (hpq : ∀ b, p b = true → q b = true) {a : α}
    (ha : a ∈ l) (hq : q a = true) (hp : p a = false) : l.countP p < l.countP q := by
  induction l with
  | nil => cases ha
  | cons c l ih =>
    have hle : l.countP p ≤ l.countP q := countP_mono_left fun b _ => hpq b
    rw [countP_cons, countP_cons]
    rcases mem_cons.mp ha with rfl | ha
    · simp only [hp, hq, Bool.false_eq_true, if_true, if_false]
      omega
    · have hlt := ih ha
      have hhead : (if p c = true then 1 else 0) ≤ if q c = true then 1 else 0 := by
        split
        · rename_i hc
          simp [hpq c hc]
        · omega
      omega

/-! ## Entries behind a list -/

/-- `modify` at an index of the first list leaves the second one alone. -/
theorem modify_append_of_lt {l m : List α} {i : Nat} (h : i < l.length) (f : α → α) :
    (l ++ m).modify i f = l.modify i f ++ m := by
  induction l generalizing i with
  | nil => simp at h
  | cons a l ih =>
    cases i with
    | zero => simp
    | succ i =>
      rw [length_cons, Nat.succ_lt_succ_iff] at h
      simp [ih h]

theorem modify_append_length (l : List α) (a : α) (f : α → α) :
    (l ++ [a]).modify l.length f = l ++ [f a] := by
  induction l with
  | nil => simp
  | cons b l ih => simp [ih]

/-- What stands in `l ++ [a]` stands in `l`, or is `a` at the end. -/
theorem lt_or_eq_of_getElem?_concat {l : List α} {a x : α} {i : Nat}
    (h : (l ++ [a])[i]? = some x) : (i < l.length ∧ l[i]? = some x) ∨ (i = l.length ∧ x = a) := by
  by_cases hi : i < l.length
  · rw [getElem?_append_left hi] at h
    exact .inl ⟨hi, h⟩
  · rw [getElem?_append_right (Nat.le_of_not_lt hi), getElem?_singleton] at h
    split at h
    · exact .inr ⟨by omega, (Option.some.inj h).symm⟩
    · cases h

/-! ## Suffixes -/

/-- `l` is a suffix of `l ++ [a]` iff it repeats `a`: moved by one place the list is itself
again. -/
theorem suffix_concat_self_iff {l : List α} {a : α} : l <:+ l ++ [a] ↔ ∀ x ∈ l, x = a := by
  constructor
  · rintro ⟨front, heq⟩
    have hlength := congrArg length heq
    rw [length_append, length_append, length_singleton] at hlength
    obtain ⟨b, rfl⟩ := length_eq_one_iff.mp (by omega : front.length = 1)
    clear hlength
    -- Each entry is the one after it, and the last one is `a`.
    induction l generalizing b with
    | nil => simp
    | cons y l ih =>
      rw [singleton_append, cons_append, cons.injEq] at heq
      obtain ⟨rfl, heq⟩ := heq
      have htail := ih b heq
      cases l with
      | nil =>
        rw [nil_append, cons.injEq] at heq
        simpa using heq.1
      | cons z l =>
        rw [cons_append, cons.injEq] at heq
        rw [forall_mem_cons]
        exact ⟨heq.1.trans (htail z mem_cons_self), htail⟩
  · intro h
    rw [eq_replicate_of_mem h, ← replicate_succ', replicate_succ]
    exact suffix_cons _ _

theorem dropLast_suffix_iff {l : List α} : l.dropLast <:+ l ↔ ∀ x ∈ l, l.getLast? = some x := by
  rcases eq_nil_or_concat l with rfl | ⟨front, last, rfl⟩
  · simp
  · simp only [concat_eq_append, dropLast_concat, getLast?_concat, Option.some.injEq,
      suffix_concat_self_iff, forall_mem_append, forall_mem_singleton, and_true,
      eq_comm (b := last)]

/-- The part of a list before the first `x`, for a list that has one. -/
theorem mem_and_takeWhile_eq_iff [DecidableEq α] (x : α) (as cs : List α) :
    x ∈ cs ∧ cs.takeWhile (· ≠ x) = as ↔ x ∉ as ∧ as ++ [x] <+: cs := by
  induction cs generalizing as with
  | nil => simp
  | cons c cs ih =>
    by_cases hc : c = x
    · -- The list starts with `x`, so nothing precedes it.
      subst hc
      rw [takeWhile_cons_of_neg (by simp)]
      cases as with
      | nil => simp
      | cons y as =>
        simp only [cons_append, cons_prefix_cons, mem_cons, not_or]
        constructor
        · rintro ⟨_, h⟩
          cases h
        · rintro ⟨⟨hne, _⟩, heq, _⟩
          exact absurd heq.symm hne
    · rw [takeWhile_cons_of_pos (by simpa using hc)]
      cases as with
      | nil => simp [Ne.symm hc]
      | cons y as =>
        simp only [mem_cons, cons.injEq, cons_append, cons_prefix_cons, not_or]
        constructor
        · rintro ⟨hmem, rfl, htake⟩
          obtain ⟨hnot, hpre⟩ := (ih as).mp ⟨hmem.resolve_left (Ne.symm hc), htake⟩
          exact ⟨⟨Ne.symm hc, hnot⟩, rfl, hpre⟩
        · rintro ⟨⟨_, hnot⟩, rfl, hpre⟩
          obtain ⟨hmem, htake⟩ := (ih as).mpr ⟨hnot, hpre⟩
          exact ⟨.inr hmem, rfl, htake⟩

/-! ## `eraseDups` -/

section EraseDups

variable [DecidableEq α]

/-- `eraseDups` keeps an item at the end of a list iff it did not come before. -/
theorem eraseDups_concat (l : List α) (a : α) :
    (l ++ [a]).eraseDups = if a ∈ l then l.eraseDups else l.eraseDups ++ [a] := by
  rw [eraseDups_append]
  by_cases ha : a ∈ l
  · rw [if_pos ha]
    simp [removeAll, ha]
  · rw [if_neg ha]
    simp [removeAll, ha, eraseDups_cons]

/-- `eraseDups` keeps the order of first occurrence. -/
theorem eraseDups_pairwise_idxOf (l : List α) :
    l.eraseDups.Pairwise fun a b => l.idxOf a < l.idxOf b := by
  -- The induction is from the end of the list: a new item stands behind all that came before.
  suffices h : ∀ m : List α,
      m.reverse.eraseDups.Pairwise fun a b => m.reverse.idxOf a < m.reverse.idxOf b by
    simpa using h l.reverse
  intro m
  induction m with
  | nil => simp
  | cons a m ih =>
    rw [reverse_cons]
    generalize m.reverse = l at ih ⊢
    have hkept : l.eraseDups.Pairwise fun b c => (l ++ [a]).idxOf b < (l ++ [a]).idxOf c := by
      refine ih.imp_of_mem ?_
      intro b c hb hc hlt
      rw [mem_eraseDups] at hb hc
      rw [idxOf_append, if_pos hb, idxOf_append, if_pos hc]
      exact hlt
    rw [eraseDups_concat]
    split
    · exact hkept
    · rename_i ha
      rw [pairwise_append]
      refine ⟨hkept, pairwise_singleton _ _, ?_⟩
      intro b hb c hc
      rw [mem_eraseDups] at hb
      rw [mem_singleton.mp hc, idxOf_append, if_pos hb, idxOf_append, if_neg ha]
      have hlt : l.idxOf b < l.length := idxOf_lt_length_of_mem hb
      omega

theorem nodup_eraseDups (l : List α) : l.eraseDups.Nodup := by
  refine (eraseDups_pairwise_idxOf l).imp ?_
  intro a b hlt heq
  rw [heq] at hlt
  exact Nat.lt_irrefl _ hlt

/-- `eraseDups` of lists with the same items gives the same items. -/
theorem eraseDups_perm_of_perm {l l' : List α} (h : l'.Perm l) :
    l'.eraseDups.Perm l.eraseDups := by
  rw [perm_ext_iff_of_nodup (nodup_eraseDups l') (nodup_eraseDups l)]
  intro a
  rw [mem_eraseDups, mem_eraseDups, h.mem_iff]

theorem eraseDups_append_cons_of_mem {front : List α} {a : α} (ha : a ∈ front) (rest : List α) :
    (front ++ a :: rest).eraseDups = (front ++ rest).eraseDups := by
  rw [eraseDups_append, eraseDups_append]
  simp [removeAll, ha]

end EraseDups

end List
