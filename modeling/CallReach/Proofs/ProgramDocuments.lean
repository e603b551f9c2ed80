import Mathlib.Data.List.Nodup
import CallReach.Proofs.JsonReading
import CallReach.Proofs.ListedFiles

/-!
# Documents of programs

A program has many documents. Fields that hold their default may be left out, and members that the
format does not know may stand anywhere. All documents of a program are read as that program, with
its relative files taken from the root directory. After that no file is relative any more, so that
the program is its own reading from any root.

## Key results

- `IsRecord.exists_fields?`: an object shows its fields, whatever else stands in it
- `program?_of_isDocument`: a document is read as its program
- `Program.parse_document`: reading moves relative files to the root, once
-/

namespace CallReach.Json

/-! ### Records -/

/-- A field of a record: its key, the values that show it, and whether it may be left out. -/
structure Field where
  key : String
  Shows : Json → Prop
  MayMiss : Prop

/-- What is found under the key of a field. -/
def Field.Found (f : Field) : Option Json → Prop
  | none => f.MayMiss
  | some v => f.Shows v

/-- The members of an object that shows the given fields in order. Members with a key that is none
of `keys` may stand anywhere. -/
inductive Members (keys : List String) : List Field → List (Option String × Json) → Prop
  | nil : Members keys [] []
  | given {f : Field} {fs : List Field} {v : Json} {ms : List (Option String × Json)} :
    f.Shows v → Members keys fs ms → Members keys (f :: fs) ((some f.key, v) :: ms)
  | missing {f : Field} {fs : List Field} {ms : List (Option String × Json)} :
    f.MayMiss → Members keys fs ms → Members keys (f :: fs) ms
  | unknown {k : String} {fs : List Field} {v : Json} {ms : List (Option String × Json)} :
    k ∉ keys → v.WellFormed → Members keys fs ms → Members keys fs ((some k, v) :: ms)

/-- An object that shows the given fields. -/
def IsRecord (fields : List Field) (v : Json) : Prop :=
  ∃ members, v = object members ∧ Members (fields.map Field.key) fields members

/-- An array that shows the given things one by one. -/
def IsList {α : Type} (IsItem : α → Json → Prop) (xs : List α) (v : Json) : Prop :=
  ∃ items, v = array items ∧ List.Forall₂ IsItem xs items

section Members

variable {keys : List String} {fields : List Field} {members : List (Option String × Json)}

private theorem Members.isSome_key (h : Members keys fields members) :
    ∀ m ∈ members, m.1.isSome = true := by
  induction h with
  | nil => simp
  | given _ _ ih => simpa using ih
  | missing _ _ ih => exact ih
  | unknown _ _ _ ih => simpa using ih

/-- `Members` give a known key at most as often as there are fields with it. -/
private theorem Members.length_filter_le (h : Members keys fields members) {k : String}
    (hk : k ∈ keys) :
    (members.filter (·.1 = some k)).length ≤ (fields.map Field.key).count k := by
  induction h with
  | nil => simp
  | @given f fs v ms _ _ ih =>
    by_cases hf : f.key = k <;> simp [hf, ih]
  | @missing f fs ms _ _ ih =>
    rw [List.map_cons]
    exact Nat.le_trans ih List.count_le_count_cons
  | @unknown k' fs v ms hk' _ _ ih =>
    have hne : k' ≠ k := fun heq => hk' (heq ▸ hk)
    simpa [hne] using ih

private theorem Members.lookup_eq_none (h : Members keys fields members) {k : String}
    (hk : k ∈ keys) (hfields : k ∉ fields.map Field.key) : members.lookup (some k) = none := by
  have hcount := h.length_filter_le hk
  rw [List.count_eq_zero_of_not_mem hfields, Nat.le_zero, List.length_eq_zero_iff,
    List.filter_eq_nil_iff] at hcount
  rw [List.lookup_eq_none_iff]
  intro m hm
  have hne := hcount m hm
  simp only [decide_eq_true_eq] at hne
  simpa using fun heq : some k = m.1 => hne heq.symm

/-- `Members` have under the key of a field what shows it, or nothing if it may be left out. -/
theorem Members.found (h : Members keys fields members) (hnodup : (fields.map Field.key).Nodup)
    (hkeys : ∀ f ∈ fields, f.key ∈ keys) : ∀ f ∈ fields, f.Found (members.lookup (some f.key)) := by
  induction h with
  | nil => simp
  | @given f fs v ms hv hms ih =>
    obtain ⟨hfresh, hnodup⟩ := List.nodup_cons.mp hnodup
    obtain ⟨-, hkeys⟩ := List.forall_mem_cons.mp hkeys
    refine List.forall_mem_cons.mpr ⟨by simpa [Field.Found] using hv, ?_⟩
    -- The other fields have other keys, and are found behind this member.
    intro g hg
    have hne : g.key ≠ f.key := fun heq => hfresh (heq ▸ List.mem_map_of_mem hg)
    simpa [List.lookup_cons, beq_false_of_ne hne] using ih hnodup hkeys g hg
  | @missing f fs ms hf hms ih =>
    obtain ⟨hfresh, hnodup⟩ := List.nodup_cons.mp hnodup
    obtain ⟨hkey, hkeys⟩ := List.forall_mem_cons.mp hkeys
    refine List.forall_mem_cons.mpr ⟨?_, ih hnodup hkeys⟩
    rw [hms.lookup_eq_none hkey hfresh]
    exact hf
  | @unknown k fs v ms hk _ _ ih =>
    intro f hf
    have hne : f.key ≠ k := fun heq => hk (heq ▸ hkeys f hf)
    simpa [List.lookup_cons, beq_false_of_ne hne] using ih hnodup hkeys f hf

/-- `Members` have `WellFormed` values if those that show the fields are so; for unknown members it
is part of the definition. -/
theorem Members.wellFormed (h : Members keys fields members)
    (hfields : ∀ f ∈ fields, ∀ v, f.Shows v → v.WellFormed) : ∀ m ∈ members, m.2.WellFormed := by
  induction h with
  | nil => simp
  | given hv _ ih =>
    obtain ⟨hf, hfs⟩ := List.forall_mem_cons.mp hfields
    exact List.forall_mem_cons.mpr ⟨hf _ hv, ih hfs⟩
  | missing _ _ ih => exact ih (List.forall_mem_cons.mp hfields).2
  | unknown _ hv _ ih => exact List.forall_mem_cons.mpr ⟨hv, ih hfields⟩

end Members

/-- `fields?` finds what an `IsRecord` shows, whatever else stands in it. -/
theorem IsRecord.exists_fields? {fields : List Field} {v : Json} (h : IsRecord fields v)
    (hnodup : (fields.map Field.key).Nodup) :
    ∃ values, fields? (fields.map Field.key) v = some values ∧
      List.Forall₂ Field.Found fields values := by
  obtain ⟨members, rfl, hmembers⟩ := h
  -- An object with a repeated key is refused, but here every key belongs to one field.
  have hcount : ∀ k ∈ fields.map Field.key, (members.filter (·.1 = some k)).length ≤ 1 := by
    intro k hk
    exact Nat.le_trans (hmembers.length_filter_le hk) (List.nodup_iff_count_le_one.mp hnodup k)
  have hfound := hmembers.found hnodup fun f hf => List.mem_map_of_mem hf
  refine ⟨fields.map fun f => members.lookup (some f.key), ?_, ?_⟩
  · have htexts : members.all (·.1.isSome) = true := List.all_eq_true.mpr hmembers.isSome_key
    have honce : ((fields.map Field.key).all fun k =>
        decide ((members.filter (·.1 = some k)).length ≤ 1)) = true := by
      simpa using hcount
    rw [fields?, htexts, honce]
    simp
  · simpa using hfound

/-- `IsRecord` values are `WellFormed` if the values that show their fields are. -/
theorem IsRecord.wellFormed {fields : List Field} {v : Json} (h : IsRecord fields v)
    (hfields : ∀ f ∈ fields, ∀ v, f.Shows v → v.WellFormed) : v.WellFormed := by
  obtain ⟨members, rfl, hmembers⟩ := h
  exact .object (hmembers.wellFormed hfields)

/-- `record` with a member for each field is an `IsRecord`. -/
private theorem isRecord_record {fields : List Field} {members : List (String × Json)}
    (h : List.Forall₂ (fun f m => m.1 = f.key ∧ f.Shows m.2) fields members) :
    IsRecord fields (record members) := by
  refine ⟨_, rfl, ?_⟩
  generalize fields.map Field.key = keys
  induction h with
  | nil => exact .nil
  | cons hm _ ih =>
    obtain ⟨hkey, hshows⟩ := hm
    simpa [hkey] using Members.given hshows ih

section Values

variable {α : Type} {read : Json → Option α} {x default : α} {f : Field} {v : Option Json}

/-- `required` reads a field that is always given from what shows it. -/
private theorem required_of_found (h : f.Found v) (hmiss : ¬ f.MayMiss)
    (hread : ∀ w, f.Shows w → read w = some x) : required read v = some x := by
  cases v with
  | none => exact absurd h hmiss
  | some w => exact hread w h

/-- `optional` gives a field that is left out its default. -/
private theorem optional_of_found (h : f.Found v) (hmiss : f.MayMiss → x = default)
    (hread : ∀ w, f.Shows w → read w = some x) : optional read default v = some x := by
  cases v with
  | none => exact congrArg some (hmiss h).symm
  | some w => exact hread w h

end Values

section Lists

variable {α : Type} {IsItem : α → Json → Prop} {xs : List α} {v : Json}

/-- `list?` reads an `IsList` item by item. -/
theorem IsList.list? {item : Json → Option α} (h : IsList IsItem xs v)
    (hitem : ∀ x ∈ xs, ∀ w, IsItem x w → item w = some x) : list? item v = some xs := by
  obtain ⟨items, rfl, hitems⟩ := h
  simp only [Json.list?]
  induction hitems with
  | nil => rfl
  | cons hx _ ih =>
    obtain ⟨hfirst, hrest⟩ := List.forall_mem_cons.mp hitem
    simp [List.mapM_cons, hfirst _ hx, ih hrest]

theorem IsList.wellFormed (h : IsList IsItem xs v)
    (hitem : ∀ x w, IsItem x w → w.WellFormed) : v.WellFormed := by
  obtain ⟨items, rfl, hitems⟩ := h
  refine .array ?_
  induction hitems with
  | nil => simp
  | cons hx _ ih => exact List.forall_mem_cons.mpr ⟨hitem _ _ hx, ih⟩

end Lists

/-! ### Programs -/

/-- The fields of a function. The file and the line are left out if they are not known. -/
def functionFields (f : Function) : List Field :=
  [⟨"name", (· = text f.name), False⟩, ⟨"file", (· = text f.file), f.file = ""⟩,
    ⟨"line", (· = nat f.line), f.line = 0⟩]

/-- The fields of a call. -/
def callFields (c : Call) : List Field :=
  [⟨"caller", (· = text c.caller), False⟩, ⟨"callee", (· = text c.callee), False⟩]

/-- The fields of a program. -/
def programFields (p : Program) : List Field :=
  [⟨"functions", IsList (fun f => IsRecord (functionFields f)) p.functions, p.functions = []⟩,
    ⟨"edges", IsList (fun c => IsRecord (callFields c)) p.calls, p.calls = []⟩]

/-- A document of a program. -/
def IsDocument (p : Program) (v : Json) : Prop := IsRecord (programFields p) v

/-- `toDigits` of a positive number does not start with a zero. -/
private theorem head?_toDigits_ne {n : Nat} (h : n ≠ 0) : (Nat.toDigits 10 n).head? ≠ some '0' := by
  induction n using Nat.strongRecOn with
  | ind n ih =>
    by_cases hsmall : n < 10
    · have hdigit : ∀ d < 10, d ≠ 0 → d.digitChar ≠ '0' := by decide
      simpa [Nat.toDigits_of_lt_base hsmall] using hdigit n hsmall h
    · have hlead := ih (n / 10) (by omega) (by omega)
      rw [Nat.toDigits_of_base_le (by decide) (by omega),
        List.head?_append_of_ne_nil _ Nat.toDigits_ne_nil]
      exact hlead

private theorem isNumber_toString (n : Nat) : IsNumber (toString n) := by
  have hdigits : IsDigits (Nat.toDigits 10 n) :=
    ⟨Nat.toDigits_ne_nil, fun d hd => Nat.isDigit_of_mem_toDigits (by decide) (by decide) hd⟩
  refine ⟨[], Nat.toDigits 10 n, [], [], .inl rfl, ?_, .inl rfl, .inl rfl, by simp⟩
  by_cases hzero : n = 0
  · subst hzero
    exact .inl rfl
  · exact .inr ⟨hdigits, head?_toDigits_ne hzero⟩

/-- `size?` reads a natural number back if it is small enough. -/
private theorem size?_nat {n : Nat} (h : n < 2 ^ 64) : size? (nat n) = some n := by
  have hdigits : (Nat.toDigits 10 n).all Char.isDigit = true :=
    List.all_eq_true.mpr fun d hd => Nat.isDigit_of_mem_toDigits (by decide) (by decide) hd
  have hbound : n < Nat.pow 2 64 := h
  simp only [size?, nat, Nat.toString_eq_repr, Nat.toList_repr, hdigits,
    Nat.ofDigitChars_toDigits (by decide : 1 < 10) (by decide : 10 ≤ 10), if_pos hbound]
  simp [Nat.toDigits_ne_nil]

/-- `function?` reads a document of a function, field by field. -/
private theorem function?_of_isRecord {f : Function} {v : Json} (h : IsRecord (functionFields f) v)
    (hline : f.line < 2 ^ 64) : function? v = some f := by
  obtain ⟨values, hvalues, hfound⟩ := h.exists_fields? (by simp [functionFields])
  simp only [functionFields, List.forall₂_cons_left_iff, List.forall₂_nil_left_iff] at hfound
  obtain ⟨name, _, hname, ⟨file, _, hfile, ⟨line, _, hnumber, rfl, rfl⟩, rfl⟩, rfl⟩ := hfound
  have hname : required text? name = some f.name :=
    required_of_found hname (by simp) (by rintro w rfl; rfl)
  have hfile : optional text? "" file = some f.file :=
    optional_of_found hfile id (by rintro w rfl; rfl)
  have hnumber : optional size? 0 line = some f.line :=
    optional_of_found hnumber id (by rintro w rfl; exact size?_nat hline)
  have hkeys : (functionFields f).map Field.key = ["name", "file", "line"] := rfl
  rw [hkeys] at hvalues
  simp [function?, hvalues, hname, hfile, hnumber]

private theorem call?_of_isRecord {c : Call} {v : Json} (h : IsRecord (callFields c) v) :
    call? v = some c := by
  obtain ⟨values, hvalues, hfound⟩ := h.exists_fields? (by simp [callFields])
  simp only [callFields, List.forall₂_cons_left_iff, List.forall₂_nil_left_iff] at hfound
  obtain ⟨caller, _, hcaller, ⟨callee, _, hcallee, rfl, rfl⟩, rfl⟩ := hfound
  have hcaller : required text? caller = some c.caller :=
    required_of_found hcaller (by simp) (by rintro w rfl; rfl)
  have hcallee : required text? callee = some c.callee :=
    required_of_found hcallee (by simp) (by rintro w rfl; rfl)
  have hkeys : (callFields c).map Field.key = ["caller", "callee"] := rfl
  rw [hkeys] at hvalues
  simp [call?, hvalues, hcaller, hcallee]

/-- `program?` reads a document as its program. -/
theorem program?_of_isDocument {p : Program} {v : Json} (h : IsDocument p v)
    (hlines : ∀ f ∈ p.functions, f.line < 2 ^ 64) : program? v = some p := by
  obtain ⟨values, hvalues, hfound⟩ := IsRecord.exists_fields? h (by simp [programFields])
  simp only [programFields, List.forall₂_cons_left_iff, List.forall₂_nil_left_iff] at hfound
  obtain ⟨functions, _, hfunctions, ⟨calls, _, hcalls, rfl, rfl⟩, rfl⟩ := hfound
  have hfunctions : optional (list? function?) [] functions = some p.functions :=
    optional_of_found hfunctions id fun w hw => hw.list? fun f hf _ hv =>
      function?_of_isRecord hv (hlines f hf)
  have hcalls : optional (list? call?) [] calls = some p.calls :=
    optional_of_found hcalls id fun w hw => hw.list? fun _ _ _ hv => call?_of_isRecord hv
  have hkeys : (programFields p).map Field.key = ["functions", "edges"] := rfl
  rw [hkeys] at hvalues
  simp [program?, hvalues, hfunctions, hcalls]

private theorem wellFormed_text (s : String) : (text s).WellFormed := .string (some s)

private theorem wellFormed_nat (n : Nat) : (nat n).WellFormed := .number (isNumber_toString n)

/-- `IsDocument` values are `WellFormed`: members that the format does not know are so by
definition. -/
theorem IsDocument.wellFormed {p : Program} {v : Json} (h : IsDocument p v) : v.WellFormed := by
  have hfunction : ∀ f w, IsRecord (functionFields f) w → w.WellFormed := by
    intro f w hw
    refine hw.wellFormed ?_
    simp [functionFields, wellFormed_text, wellFormed_nat]
  have hcall : ∀ c w, IsRecord (callFields c) w → w.WellFormed := by
    intro c w hw
    refine hw.wellFormed ?_
    simp [callFields, wellFormed_text]
  refine IsRecord.wellFormed h ?_
  simp only [programFields, List.forall_mem_cons]
  exact ⟨fun w hw => hw.wellFormed hfunction, fun w hw => hw.wellFormed hcall, by simp⟩

private theorem isRecord_ofFunction (f : Function) : IsRecord (functionFields f) (ofFunction f) :=
  isRecord_record (.cons ⟨rfl, rfl⟩ (.cons ⟨rfl, rfl⟩ (.cons ⟨rfl, rfl⟩ .nil)))

private theorem isRecord_ofCall (c : Call) : IsRecord (callFields c) (ofCall c) :=
  isRecord_record (.cons ⟨rfl, rfl⟩ (.cons ⟨rfl, rfl⟩ .nil))

private theorem isList_map {α : Type} {IsItem : α → Json → Prop} {write : α → Json}
    (h : ∀ x, IsItem x (write x)) (xs : List α) : IsList IsItem xs (array (xs.map write)) :=
  ⟨_, rfl, by simp [h]⟩

/-- `ofProgram` writes an `IsDocument` with all fields given. -/
private theorem isDocument_ofProgram (p : Program) : IsDocument p (ofProgram p) :=
  isRecord_record (.cons ⟨rfl, isList_map isRecord_ofFunction p.functions⟩
    (.cons ⟨rfl, isList_map isRecord_ofCall p.calls⟩ .nil))

end CallReach.Json

namespace CallReach

/-- `parse` reads both texts of a document as its program, with the files seen from the root
directory. -/
private theorem Program.parse_of_isDocument {p : Program} {v : Json} (h : Json.IsDocument p v)
    (hlines : ∀ f ∈ p.functions, f.line < 2 ^ 64) {text : String}
    (htext : text ∈ [v.compact, v.pretty]) (origin root : String) :
    Program.parse text origin root =
      .ok { p with functions := p.functions.map (·.rooted root) } := by
  have hread : Json.parse? text = some v := by
    simp only [List.mem_cons, List.not_mem_nil, or_false] at htext
    obtain rfl | rfl := htext
    · exact Json.parse?_compact h.wellFormed
    · exact Json.parse?_pretty h.wellFormed
  refine Program.parse_of_program? ?_ origin root
  rw [hread, Option.bind_some, Json.program?_of_isDocument h hlines]

/-- A function as it is seen from a root directory. Only a relative file changes. -/
structure Function.SeenFrom (root : String) (f g : Function) : Prop where
  name : g.name = f.name
  line : g.line = f.line
  kept : f.file = "" ∨ Path.isAbsolute f.file = true → g.file = f.file
  joined : f.file ≠ "" → Path.isAbsolute f.file = false →
    g.file = Path.normalize (Path.join root f.file)

/-- `rooted` moves a relative file to the root directory, and nothing else. -/
private theorem Function.seenFrom_rooted (root : String) (f : Function) :
    f.SeenFrom root (f.rooted root) := by
  unfold Function.rooted
  split
  case isTrue h =>
    simp only [ne_eq, Bool.and_eq_true, decide_eq_true_eq, Bool.not_eq_true'] at h
    exact ⟨rfl, rfl, by simp [h], fun _ _ => rfl⟩
  case isFalse h =>
    refine ⟨rfl, rfl, fun _ => rfl, ?_⟩
    intro hfile hrelative
    exact absurd (by simp [hfile, hrelative]) h

private theorem Function.rooted_of_isAbsolute {f : Function}
    (h : f.file ≠ "" → Path.isAbsolute f.file = true) (root : String) : f.rooted root = f := by
  unfold Function.rooted
  refine if_neg ?_
  simpa using h

/-- `rooted` leaves no known file relative, if the root directory is absolute. -/
private theorem Function.isAbsolute_rooted {root : String} (hroot : Path.isAbsolute root = true)
    (f : Function) (h : (f.rooted root).file ≠ "") :
    Path.isAbsolute (f.rooted root).file = true := by
  have hseen := f.seenFrom_rooted root
  have hfile : f.file ≠ "" := Function.file_ne_of_rooted h
  by_cases habsolute : Path.isAbsolute f.file = true
  · rw [hseen.kept (.inr habsolute)]
    exact habsolute
  · rw [hseen.joined hfile (by simpa using habsolute), Path.isAbsolute_normalize]
    exact Path.isAbsolute_join_of_absolute hroot f.file

/-- **Reading a document moves relative files once.** Let the lines be numbers that a document can
hold. Every document of the program, and the written one is among them, is read as that program with
the relative files moved to an absolute root, and nothing else changed. No file is relative any
more, so every document of the result is read as the result, from whatever root. -/
theorem Program.parse_document (p : Program) {root : String} (hroot : Path.isAbsolute root = true)
    (hlines : ∀ f ∈ p.functions, f.line < 2 ^ 64) :
    (∀ r, Json.IsDocument r (Json.ofProgram r)) ∧
      ∃ q : Program,
        (∀ v, Json.IsDocument p v → ∀ text ∈ [v.compact, v.pretty], ∀ origin,
          Program.parse text origin root = .ok q) ∧
        q.calls = p.calls ∧ List.Forall₂ (Function.SeenFrom root) p.functions q.functions ∧
        (∀ f ∈ q.functions, f.file ≠ "" → Path.isAbsolute f.file = true) ∧
        ∀ v, Json.IsDocument q v → ∀ text ∈ [v.compact, v.pretty], ∀ origin root',
          Program.parse text origin root' = .ok q := by
  let q : Program := { p with functions := p.functions.map (·.rooted root) }
  have hseen : List.Forall₂ (Function.SeenFrom root) p.functions q.functions := by
    simp [q, Function.seenFrom_rooted]
  have habsolute : ∀ f ∈ q.functions, f.file ≠ "" → Path.isAbsolute f.file = true := by
    intro f hf
    obtain ⟨g, -, rfl⟩ := List.mem_map.mp hf
    exact Function.isAbsolute_rooted hroot g
  have hlines' : ∀ f ∈ q.functions, f.line < 2 ^ 64 := by
    intro f hf
    obtain ⟨g, hg, rfl⟩ := List.mem_map.mp hf
    rw [(g.seenFrom_rooted root).line]
    exact hlines g hg
  -- Read again, the functions stay as they are.
  have hagain : ∀ root', q.functions.map (·.rooted root') = q.functions := by
    intro root'
    rw [List.map_congr_left fun f hf => Function.rooted_of_isAbsolute (habsolute f hf) root',
      List.map_id']
  refine ⟨Json.isDocument_ofProgram, q, ?_, rfl, hseen, habsolute, ?_⟩
  · intro v hv text htext origin
    exact Program.parse_of_isDocument hv hlines htext origin root
  · intro v hv text htext origin root'
    rw [Program.parse_of_isDocument hv hlines' htext origin root', hagain root']

/-- A document with a note that no one knows, in which the place of the second function is left
out. -/
theorem Program.parse_document_of_abridged :
    let f : Function := ⟨"a", "src/../x.rs", 3⟩
    let p : Program := ⟨[f, ⟨"b", "", 0⟩], [⟨"a", "b"⟩, ⟨"a", "b"⟩]⟩
    let q : Program := ⟨[⟨"a", "/work/x.rs", 3⟩, ⟨"b", "", 0⟩], [⟨"a", "b"⟩, ⟨"a", "b"⟩]⟩
    let v : Json := .record
      [("note", .number "-1.50e+3"),
        ("functions", .array [Json.ofFunction f, .record [("name", .text "b")]]),
        ("edges", .array (p.calls.map Json.ofCall))]
    Path.isAbsolute "/work" = true ∧ (∀ f ∈ p.functions, f.line < 2 ^ 64) ∧ Json.IsDocument p v ∧
      Program.parse v.compact "model.json" "/work" = .ok q ∧
      Program.parse (Json.ofProgram q).pretty "model.json" "elsewhere" = .ok q := by
  intro f p q v
  have hroot : Path.isAbsolute "/work" = true := by decide +kernel
  have hlines : ∀ f ∈ p.functions, f.line < 2 ^ 64 := by decide
  obtain ⟨hwritten, q', hparse, -, -, -, hagain⟩ := Program.parse_document p hroot hlines
  have hnote : Json.IsNumber "-1.50e+3" := by
    refine ⟨['-'], ['1'], ['.', '5', '0'], ['e', '+', '3'], .inr rfl, .inr ?_,
      .inr ⟨['5', '0'], ?_, rfl⟩,
      .inr ⟨'e', ['+'], ['3'], .inl rfl, .inr (.inl rfl), ?_, rfl⟩, rfl⟩
    all_goals simp [Json.IsDigits]
  -- The second function leaves out two fields, and the document starts with a member that is not
  -- known.
  have hplaceless :
      Json.IsRecord (Json.functionFields ⟨"b", "", 0⟩) (.record [("name", .text "b")]) :=
    ⟨_, rfl, .given rfl (.missing rfl (.missing rfl .nil))⟩
  have hdocument : Json.IsDocument p v :=
    ⟨_, rfl, .unknown (by decide) (.number hnote)
      (.given ⟨_, rfl, .cons (Json.isRecord_ofFunction f) (.cons hplaceless .nil)⟩
        (.given (Json.isList_map Json.isRecord_ofCall p.calls) .nil))⟩
  have hq : q' = q := by
    have hread : (Program.parse v.compact "model.json" "/work").toOption = some q := by
      decide +kernel
    rw [hparse v hdocument _ (by simp)] at hread
    exact Option.some.inj hread
  subst hq
  exact ⟨hroot, hlines, hdocument, hparse v hdocument _ (by simp) _,
    hagain _ (hwritten _) _ (by simp) _ _⟩

end CallReach
