import CallReach.Command.Run
import CallReach.Proofs.PathResolution
import Mathlib.Data.List.DropRight

/-!
# Lists with commas

A list of files is one text: slots with commas between them, where a slot is empty or holds an
entry, and blanks may stand around either. `Written` says so as a grammar, without cutting or
trimming anything. Reading a text gives the entries that it is written from and no others, so blanks
at the ends of the whole text do not matter, nor do commas that follow one another.

## Key results

- `trimChars_pad`, `exists_pads`: trimming takes away the blanks around a text and nothing else
- `comma_induction`: texts are built from slots by commas
- `entries_pad`: blanks around a list do not matter
- `written_iff`: what is read is what was written
- `commaList_reads_written`: all about lists with commas, and about the lists that a run is given
-/

namespace CallReach.Text

/-! ## Trimming -/

/-- A text of blanks. -/
def Blanks (cs : List Char) : Prop := ∀ c ∈ cs, isBlank c = true

variable {pad pad' cs : List Char}

private theorem blanks_nil : Blanks [] := List.forall_mem_nil _

private theorem Blanks.comma_not_mem (h : Blanks pad) : ',' ∉ pad := by
  intro hmem
  exact absurd (h ',' hmem) (by decide)

private theorem trimChars_append_left (hpad : Blanks pad) :
    trimChars (pad ++ cs) = trimChars cs := by
  rw [trimChars, trimChars, List.dropWhile_append_of_pos hpad]

/-- `trimChars` drops blanks behind a text, also where it is blank itself. -/
private theorem trimChars_append_right (hpad : Blanks pad) :
    trimChars (cs ++ pad) = trimChars cs := by
  have hend : ∀ ds : List Char, (ds ++ pad).rdropWhile isBlank = ds.rdropWhile isBlank := by
    intro ds
    rw [List.rdropWhile, List.rdropWhile, List.reverse_append, List.dropWhile_append_of_pos]
    intro c hc
    exact hpad c (List.mem_reverse.mp hc)
  show ((cs ++ pad).dropWhile isBlank).rdropWhile isBlank =
    (cs.dropWhile isBlank).rdropWhile isBlank
  -- Either the text is blank and all is dropped from the left, or its end is dropped from the
  -- right.
  rw [List.dropWhile_append]
  split
  · rename_i hblank
    rw [List.isEmpty_iff.mp hblank, List.dropWhile_eq_nil_iff.mpr hpad]
  · exact hend _

/-- `trimChars` takes away the blanks around a text. -/
theorem trimChars_pad (hpad : Blanks pad) (hpad' : Blanks pad') :
    trimChars (pad ++ cs ++ pad') = trimChars cs := by
  rw [trimChars_append_right hpad', trimChars_append_left hpad]

/-- `trimChars` takes away nothing but blanks. -/
theorem exists_pads (cs : List Char) :
    ∃ pad pad', Blanks pad ∧ Blanks pad' ∧ cs = pad ++ trimChars cs ++ pad' := by
  refine ⟨cs.takeWhile isBlank, (cs.dropWhile isBlank).rtakeWhile isBlank, ?_, ?_, ?_⟩
  · intro c hc
    exact List.mem_takeWhile_imp hc
  · intro c hc
    exact List.mem_rtakeWhile_imp hc
  · have hright : trimChars cs ++ (cs.dropWhile isBlank).rtakeWhile isBlank =
        cs.dropWhile isBlank :=
      List.rdropWhile_append_rtakeWhile
    rw [List.append_assoc, hright, List.takeWhile_append_dropWhile]

private theorem trimChars_trimChars (cs : List Char) : trimChars (trimChars cs) = trimChars cs := by
  obtain ⟨pad, pad', hpad, hpad', hcs⟩ := exists_pads cs
  calc trimChars (trimChars cs)
    _ = trimChars (pad ++ trimChars cs ++ pad') := (trimChars_pad hpad hpad').symm
    _ = trimChars cs := by rw [← hcs]

private theorem trimChars_subset (cs : List Char) : trimChars cs ⊆ cs := by
  obtain ⟨pad, pad', -, -, hcs⟩ := exists_pads cs
  intro c hc
  rw [hcs]
  exact List.mem_append_left _ (List.mem_append_right _ hc)

/-- `trimChars` leaves nothing exactly of `Blanks`. -/
private theorem trimChars_eq_nil_iff : trimChars cs = [] ↔ Blanks cs := by
  constructor
  · intro h
    obtain ⟨pad, pad', hpad, hpad', hcs⟩ := exists_pads cs
    rw [hcs, h, List.append_nil]
    intro c hc
    exact (List.mem_append.mp hc).elim (hpad c) (hpad' c)
  · intro h
    have hnil : trimChars ([] ++ cs) = trimChars [] := trimChars_append_right h
    rwa [List.nil_append] at hnil

/-! ## Reading -/

/-- The entries of a list, read from its characters. -/
def entries (cs : List Char) : List String :=
  (((cutAt ',' cs).map trimChars).filter (! ·.isEmpty)).map String.ofList

/-- Texts are built from texts without commas by putting commas between them. -/
theorem comma_induction {P : List Char → Prop} (slot : ∀ cs, ',' ∉ cs → P cs)
    (more : ∀ as bs, ',' ∉ as → P bs → P (as ++ ',' :: bs)) (cs : List Char) : P cs := by
  by_cases hcomma : ',' ∈ cs
  · obtain ⟨as, bs, hcs, has⟩ := List.eq_append_cons_of_mem hcomma
    have hshorter : bs.length < cs.length := by
      rw [hcs, List.length_append, List.length_cons]
      omega
    rw [hcs]
    exact more as bs has (comma_induction slot more bs)
  · exact slot cs hcomma
termination_by cs.length

/-- The `entries` before a comma are followed by those behind it. -/
private theorem entries_append (as bs : List Char) :
    entries (as ++ ',' :: bs) = entries as ++ entries bs := by
  rw [entries, cutAt_append, List.map_append, List.filter_append, List.map_append]
  rfl

/-- `entries` of a text without commas: one, or none if it is blank. -/
private theorem entries_of_not_mem (h : ',' ∉ cs) :
    entries cs = if trimChars cs = [] then [] else [String.ofList (trimChars cs)] := by
  rw [entries, cutAt_of_not_mem h]
  split
  · rename_i hblank
    simp [hblank]
  · rename_i hentry
    simp [hentry]

private theorem entries_pad_of_not_mem (hpad : Blanks pad) (hpad' : Blanks pad') (h : ',' ∉ cs) :
    entries (pad ++ cs ++ pad') = entries cs := by
  have hall : ',' ∉ pad ++ cs ++ pad' := by
    simp only [List.mem_append, not_or]
    exact ⟨⟨hpad.comma_not_mem, h⟩, hpad'.comma_not_mem⟩
  rw [entries_of_not_mem hall, entries_of_not_mem h, trimChars_pad hpad hpad']

/-- `entries` do not depend on blanks around the list. -/
theorem entries_pad (hpad : Blanks pad) (hpad' : Blanks pad') (cs : List Char) :
    entries (pad ++ cs ++ pad') = entries cs := by
  -- The blanks in front belong to the first slot and those behind to the last one.
  induction cs using comma_induction generalizing pad with
  | slot cs hcs => exact entries_pad_of_not_mem hpad hpad' hcs
  | more as bs has ih =>
    have hfirst : entries (pad ++ as ++ []) = entries as :=
      entries_pad_of_not_mem hpad blanks_nil has
    have hrest : entries ([] ++ bs ++ pad') = entries bs := ih blanks_nil
    calc entries (pad ++ (as ++ ',' :: bs) ++ pad')
      _ = entries ((pad ++ as) ++ ',' :: (bs ++ pad')) := by simp
      _ = entries (pad ++ as) ++ entries (bs ++ pad') := entries_append _ _
      _ = entries as ++ entries bs := by rw [← hfirst, ← hrest, List.append_nil, List.nil_append]
      _ = entries (as ++ ',' :: bs) := (entries_append as bs).symm

/-! ## Writing -/

/-- What can be an entry of a list: a text that is not empty, has no comma and no blanks at its
ends. -/
def IsCommaEntry (e : String) : Prop := e ≠ "" ∧ ',' ∉ e.toList ∧ trim e = e

/-- A slot of a list, with its entry if it has one. -/
inductive Slot : List String → List Char → Prop
  | blank {pad : List Char} (hpad : Blanks pad) : Slot [] pad
  | entry {pad pad' : List Char} {e : String} (hpad : Blanks pad) (he : IsCommaEntry e)
      (hpad' : Blanks pad') : Slot [e] (pad ++ e.toList ++ pad')

/-- A text in which the given entries are written: slots with commas between them. -/
inductive Written : List String → List Char → Prop
  | slot {es : List String} {cs : List Char} (h : Slot es cs) : Written es cs
  | more {es es' : List String} {cs cs' : List Char} (h : Slot es cs) (h' : Written es' cs') :
      Written (es ++ es') (cs ++ ',' :: cs')

/-- What `trimChars` leaves of a text without commas is an `IsCommaEntry`, unless it is empty. -/
private theorem isCommaEntry_ofList_trimChars (h : ',' ∉ cs) (hne : trimChars cs ≠ []) :
    IsCommaEntry (String.ofList (trimChars cs)) := by
  refine ⟨?_, ?_, ?_⟩
  · intro hempty
    have hnil := congrArg String.toList hempty
    rw [String.toList_ofList] at hnil
    exact hne hnil
  · rw [String.toList_ofList]
    exact fun hmem => h (trimChars_subset cs hmem)
  · rw [trim, String.toList_ofList, trimChars_trimChars]

/-- `entries` reads a `Slot` back. -/
private theorem Slot.entries_eq {es : List String} (h : Slot es cs) : entries cs = es := by
  cases h with
  | blank hpad => rw [entries_of_not_mem hpad.comma_not_mem, if_pos (trimChars_eq_nil_iff.mpr hpad)]
  | entry hpad he hpad' =>
    rename_i pad pad' e
    obtain ⟨hne, hcomma, htrim⟩ := he
    have htrim' : String.ofList (trimChars e.toList) = e := htrim
    have hnonempty : trimChars e.toList ≠ [] := by
      intro hnil
      rw [hnil] at htrim'
      exact hne htrim'.symm
    rw [entries_pad hpad hpad', entries_of_not_mem hcomma, if_neg hnonempty, htrim']

/-- A text without commas is a `Slot` of its `entries`. -/
private theorem slot_of_not_mem (h : ',' ∉ cs) : Slot (entries cs) cs := by
  rw [entries_of_not_mem h]
  split
  · rename_i hblank
    exact .blank (trimChars_eq_nil_iff.mp hblank)
  · rename_i hentry
    obtain ⟨pad, pad', hpad, hpad', hcs⟩ := exists_pads cs
    have hslot : Slot [String.ofList (trimChars cs)]
        (pad ++ (String.ofList (trimChars cs)).toList ++ pad') :=
      .entry hpad (isCommaEntry_ofList_trimChars h hentry) hpad'
    rw [String.toList_ofList, ← hcs] at hslot
    exact hslot

/-- `entries` reads what was `Written`, and every text is written from something. -/
theorem written_iff {es : List String} : Written es cs ↔ entries cs = es := by
  constructor
  · intro h
    -- Reading goes along the slots of the text, writing along its commas.
    induction h with
    | slot h => exact h.entries_eq
    | more h _ ih => rw [entries_append, h.entries_eq, ih]
  · rintro rfl
    induction cs using comma_induction with
    | slot cs hcs => exact .slot (slot_of_not_mem hcs)
    | more as bs has ih =>
      rw [entries_append]
      exact .more (slot_of_not_mem has) ih

private theorem Written.isCommaEntry {es : List String} (h : Written es cs) {e : String}
    (he : e ∈ es) : IsCommaEntry e := by
  have hslot : ∀ {es : List String} {cs : List Char}, Slot es cs → e ∈ es → IsCommaEntry e := by
    intro es cs h he
    cases h with
    | blank => cases he
    | entry _ hentry _ => rwa [List.mem_singleton.mp he]
  induction h with
  | slot h => exact hslot h he
  | more h _ ih => exact (List.mem_append.mp he).elim (hslot h) ih

end CallReach.Text

namespace CallReach

open Text

/-! ## The lists of a run -/

/-- `present` hands a value on trimmed, if it is given and not blank. -/
private theorem present_eq_some_iff {value : Option String} {text : String} :
    present value = some text ↔ ∃ raw, value = some raw ∧ trim raw = text ∧ text ≠ "" := by
  cases value with
  | none => simp [present]
  | some raw =>
    simp only [present, Option.bind_eq_bind, Option.bind_some, Option.some.injEq, exists_eq_left']
    split
    · rename_i hempty
      simp only [false_iff, not_and, not_not, reduceCtorEq]
      rintro rfl
      exact hempty
    · rename_i hpresent
      simp only [Option.some.injEq]
      constructor
      · rintro rfl
        exact ⟨rfl, hpresent⟩
      · exact And.left

/-- `commaList` may be given its text trimmed. -/
private theorem commaList_trim (s : String) : commaList (trim s) = commaList s := by
  obtain ⟨pad, pad', hpad, hpad', hs⟩ := exists_pads s.toList
  calc commaList (trim s)
    _ = entries (trimChars s.toList) := by rw [trim, commaList, String.toList_ofList]; rfl
    _ = entries (pad ++ trimChars s.toList ++ pad') := (entries_pad hpad hpad' _).symm
    _ = commaList s := by rw [← hs]; rfl

/-- `inputs` reads the lists from the flags as they stand. -/
private theorem Flags.lists_of_inputs {f : Flags} {i : Inputs} (h : f.inputs = .ok i) :
    ∃ sources sinks, f.sources = some sources ∧ f.sinks = some sinks ∧
      i.sources = commaList sources ∧ i.sinks = commaList sinks := by
  unfold Flags.inputs at h
  split at h
  · rename_i repo sources sinks _ hsources hsinks
    obtain ⟨rawSources, hf, rfl, -⟩ := present_eq_some_iff.mp hsources
    obtain ⟨rawSinks, hf', rfl, -⟩ := present_eq_some_iff.mp hsinks
    cases h
    refine ⟨rawSources, rawSinks, hf, hf', ?_, ?_⟩
    · dsimp only
      rw [commaList_trim]
    · dsimp only
      rw [commaList_trim]
  · cases h

/-- **Lists with commas.** Lists may be put together with a comma, and blanks around a list do not
matter, so that the lists of a run are those of its flags. Only entries are read, and they are the
ones that the text is written from, whatever blanks are around them and however many commas are
between them. -/
theorem commaList_reads_written :
    (∀ a b : String, commaList (a ++ "," ++ b) = commaList a ++ commaList b) ∧
    (∀ s : String, commaList (trim s) = commaList s) ∧
    (∀ (f : Flags) (i : Inputs), f.inputs = .ok i → ∃ sources sinks,
      f.sources = some sources ∧ f.sinks = some sinks ∧
      i.sources = commaList sources ∧ i.sinks = commaList sinks) ∧
    (∀ s : String, ∀ e ∈ commaList s, IsCommaEntry e) ∧
    ∀ (es : List String) (s : String), Written es s.toList ↔ commaList s = es := by
  refine ⟨?_, commaList_trim, fun f i => Flags.lists_of_inputs, ?_, fun es s => written_iff⟩
  · intro a b
    have hchars : (a ++ "," ++ b).toList = a.toList ++ ',' :: b.toList := by simp
    show entries (a ++ "," ++ b).toList = _
    rw [hchars, entries_append]
    rfl
  · intro s e he
    have hwritten : Written (commaList s) s.toList := written_iff.mpr rfl
    exact hwritten.isCommaEntry he

/-- An ideographic blank, a tab, a doubled comma, a comma at the end and a list of nothing but a
comma: the entries are read with the blank that one of them holds. -/
theorem commaList_reads_written_of_mixed :
    let text := "\u3000a.go ,,\tb c,"
    let f : Flags := { repo := some " r", sources := some text, sinks := some "," }
    let i : Inputs := ⟨"r", ["a.go", "b c"], []⟩
    Written ["a.go", "b c"] text.toList ∧ commaList text = ["a.go", "b c"] ∧ f.inputs = .ok i ∧
      i.sources = commaList text ∧ IsCommaEntry "b c" := by
  intro text f i
  obtain ⟨-, -, hinputs, hentry, hread⟩ := commaList_reads_written
  -- The slots of the text, from left to right.
  have hblank : Slot [] [] := .blank blanks_nil
  have hfirst : Slot ["a.go"] (['\u3000'] ++ "a.go".toList ++ [' ']) :=
    .entry (by simp [Blanks]; decide) ⟨by decide, by decide, by decide +kernel⟩
      (by simp [Blanks]; decide)
  have hsecond : Slot ["b c"] (['\t'] ++ "b c".toList ++ []) :=
    .entry (by simp [Blanks]; decide) ⟨by decide, by decide, by decide +kernel⟩ blanks_nil
  have hwritten : Written ["a.go", "b c"] text.toList := by
    have hslots := Written.more hfirst (.more hblank (.more hsecond (.slot hblank)))
    have htext : text.toList = ['\u3000'] ++ "a.go".toList ++ [' '] ++
        ',' :: ([] ++ ',' :: (['\t'] ++ "b c".toList ++ [] ++ ',' :: [])) := by decide
    rw [htext]
    exact hslots
  have hlist : commaList text = ["a.go", "b c"] := (hread _ _).mp hwritten
  have hi : f.inputs = .ok i := by
    have hrepo : present f.repo = some "r" := by decide +kernel
    have hsources : present f.sources = some "a.go ,,\tb c," := by decide +kernel
    have hsinks : present f.sinks = some "," := by decide +kernel
    have hall : commaList "a.go ,,\tb c," = ["a.go", "b c"] := by decide +kernel
    have hnone : commaList "," = [] := by decide +kernel
    rw [Flags.inputs, hrepo, hsources, hsinks]
    simp only [hall, hnone, i]
  obtain ⟨sources, sinks, hsources, -, hi', -⟩ := hinputs f i hi
  cases hsources
  exact ⟨hwritten, hlist, hi, hi', hentry text "b c" (by rw [hlist]; decide)⟩

end CallReach
