import CallReach.Proofs.PathResolution

/-!
# Where paths lead

The canonical form of a path is computed along a stack of components. Here the place that a path
leads to is a value of its own: names that are followed from the root, or from some levels above
wherever the path is read. A path is followed component by component, `..` takes the last name back
and has no effect at the root. The canonical form is then the one way to write that place down.

## Key results

- `resolve_eq_components`: what remains of a path is what its location is written as
- `location_normalize`: the canonical form leads to the same location
- `components_normalize_eq`: the canonical form by its components
- `normalize_writes_location`: canonical forms are the written forms of locations, one for each
-/

namespace CallReach.Path

/-! ## Locations -/

/-- Where the names of a location start: at the root, or so many levels above the place where the
path is read. -/
inductive Origin where
  | root
  | above (levels : Nat)
  deriving DecidableEq, Repr

/-- A place by its names from an origin. -/
structure Location where
  origin : Origin
  names : List String
  deriving DecidableEq, Repr

namespace Location

/-- The place where a path is read. -/
def here : Location := ⟨.above 0, []⟩

/-- The place one component further. -/
def step (l : Location) : Component → Location
  | .root => ⟨.root, []⟩
  | .here => l
  | .up =>
    match l.names, l.origin with
    | [], .root => l
    | [], .above n => ⟨.above (n + 1), []⟩
    | names, origin => ⟨origin, names.dropLast⟩
  | .name s => { l with names := l.names ++ [s] }

/-- The components that an origin is written with: the root, or nothing but `..`. -/
def lead : Origin → List Component
  | .root => [.root]
  | .above n => List.replicate n .up

/-- The components that a location is written with. -/
def components (l : Location) : List Component := lead l.origin ++ l.names.map .name

/-- The text that a location is written as. The place where the path is read has no components, and
is a dot. -/
def text (l : Location) : String := if l = here then "." else ofComponents l.components

end Location

/-- The place that a path leads to. -/
def location (p : String) : Location := (components p).foldl Location.step .here

namespace Location

private theorem components_eq_nil_iff {l : Location} : l.components = [] ↔ l = here := by
  obtain ⟨origin, names⟩ := l
  cases origin <;> simp [components, lead, here]

/-- `Location.components` tells locations apart. -/
private theorem components_injective : Function.Injective components := by
  have hname : Function.Injective Component.name := fun _ _ h => Component.name.inj h
  rintro ⟨origin, names⟩ ⟨origin', names'⟩ h
  -- The number of `..` gives the levels, and what is no `..` gives the names.
  have hups : ∀ l : Location, l.components.count .up = (lead l.origin).count .up := by
    intro l
    simp [components, List.count_append, List.count_eq_zero]
  have hcount := hups ⟨origin, names⟩
  rw [h, hups] at hcount
  cases origin with
  | root =>
    cases origin' with
    | root =>
      simp only [components, List.append_cancel_left_eq] at h
      rw [List.map_injective_iff.mpr hname h]
    | above n =>
      obtain rfl : n = 0 := by simpa [lead] using hcount
      cases names' <;> simp [components, lead] at h
  | above m =>
    cases origin' with
    | root =>
      obtain rfl : m = 0 := by simpa [lead] using hcount.symm
      cases names <;> simp [components, lead] at h
    | above n =>
      obtain rfl : n = m := by simpa [lead] using hcount
      simp only [components, List.append_cancel_left_eq] at h
      rw [List.map_injective_iff.mpr hname h]

/-- `Location.step` does to a location what `resolveStep` does to a stack. -/
private theorem reverse_components_step (l : Location) {c : Component} (hc : c ≠ .root) :
    (l.step c).components.reverse = resolveStep l.components.reverse c := by
  obtain ⟨origin, names⟩ := l
  cases c with
  | root => exact absurd rfl hc
  | here => rfl
  | name s => simp [step, components, resolveStep]
  | up =>
    -- With a name left, `..` takes it back. Without one it goes above, or stays at the root.
    induction names using List.reverseRecOn with
    | append_singleton names s => simp [step, components, resolveStep]
    | nil =>
      cases origin with
      | root => rfl
      | above n =>
        simp only [step, components, lead, List.map_nil, List.append_nil, List.reverse_replicate]
        cases n <;> rfl

end Location

/-! ## The location of a path -/

private theorem location_eq (p : String) :
    location p = (steps p).foldl Location.step (if isAbsolute p then ⟨.root, []⟩ else .here) := by
  unfold location
  cases h : isAbsolute p with
  | true =>
    rw [components_of_absolute h]
    rfl
  | false =>
    rcases components_of_relative h with hc | hc
    · rw [hc]
      rfl
    · rw [hc]
      rfl

private theorem Component.IsPlain.ne_root {c : Component} (h : c.IsPlain) : c ≠ .root := by
  rintro rfl
  exact absurd h.1 (by decide)

/-- `resolve` gives what the location of the path is written with. -/
theorem resolve_eq_components (p : String) : resolve p = (location p).components := by
  have hstart : (if isAbsolute p then [.root] else []) =
      (if isAbsolute p then (⟨.root, []⟩ : Location) else .here).components.reverse := by
    split <;> rfl
  -- The stack is the written location the other way round, at every step.
  have hwalk : ∀ (cs : List Component) (l : Location), (∀ c ∈ cs, c.IsPlain) →
      cs.foldl resolveStep l.components.reverse =
        (cs.foldl Location.step l).components.reverse := by
    intro cs
    induction cs with
    | nil => intro l _; rfl
    | cons c cs ih =>
      intro l hcs
      rw [List.forall_mem_cons] at hcs
      rw [List.foldl_cons, List.foldl_cons, ← l.reverse_components_step hcs.1.ne_root, ih _ hcs.2]
  have htrail : resolve p = (trail p).reverse := rfl
  rw [htrail, trail_eq, location_eq, hstart, hwalk _ _ fun c hc => isPlain_of_mem_steps hc,
    List.reverse_reverse]

/-- `normalize` writes the location of the path. -/
private theorem normalize_eq_text (p : String) : normalize p = (location p).text := by
  unfold normalize Location.text
  rw [resolve_eq_components]
  split
  · rename_i hnil
    rw [if_pos (Location.components_eq_nil_iff.mp hnil)]
  · rename_i hne
    rw [if_neg fun h => hne (Location.components_eq_nil_iff.mpr h)]

/-- `normalize` leads to the same location. -/
theorem location_normalize (p : String) : location (normalize p) = location p := by
  apply Location.components_injective
  rw [← resolve_eq_components, ← resolve_eq_components]
  exact congrArg List.reverse (trail_normalize p)

/-- `normalize` is the same for paths that lead to one location, and only for them. -/
private theorem normalize_eq_normalize_iff {p q : String} :
    normalize p = normalize q ↔ location p = location q := by
  constructor
  · intro h
    rw [← location_normalize p, h, location_normalize]
  · intro h
    rw [normalize_eq_text, normalize_eq_text, h]

/-! ## Written components -/

/-- A name `IsPlain` if it has no slash, and is neither empty nor a dot nor two dots. -/
private theorem Component.isPlain_name_iff {s : String} :
    (Component.name s).IsPlain ↔ '/' ∉ s.toList ∧ s ≠ "" ∧ s ≠ "." ∧ s ≠ ".." := by
  have hread : Component.ofPiece? s.toList = some (.name s) ↔ s ≠ "" ∧ s ≠ "." ∧ s ≠ ".." := by
    simp only [ne_eq, ← String.toList_inj]
    unfold Component.ofPiece?
    split <;> simp_all
  rw [Component.IsPlain, ← hread]
  rfl

private theorem isPlain_of_mem_names {p s : String} (h : s ∈ (location p).names) :
    (Component.name s).IsPlain := by
  have hmem : Component.name s ∈ resolve p := by
    rw [resolve_eq_components, Location.components]
    exact List.mem_append_right _ (List.mem_map_of_mem h)
  exact isPlain_of_mem_trail (List.mem_reverse.mp hmem) (by simp)

/-- `components` reads back what `ofComponents` has written. -/
private theorem components_ofComponents {cs : List Component} (h : ∀ c ∈ cs, c.IsPlain) :
    components (ofComponents cs) = cs := by
  cases cs with
  | nil => rfl
  | cons c cs =>
    have hpieces : Text.cutAt '/' (ofComponents (c :: cs)).toList =
        (c :: cs).map (·.text.toList) := by
      rw [toList_ofComponents h]
      exact Text.cutAt_intercalate (by simp) (by simpa using fun d hd => (h d hd).1)
    have hsteps : steps (ofComponents (c :: cs)) = c :: cs := steps_ofComponents h
    have hread := (h c List.mem_cons_self).2
    -- The first piece is read as a component, so it is neither empty nor a dot.
    unfold components
    unfold steps at hsteps
    rw [hpieces] at hsteps ⊢
    rw [List.map_cons] at hsteps ⊢
    split <;> simp_all [Component.ofPiece?]

private theorem origin_eq_root_iff (p : String) :
    (location p).origin = .root ↔ isAbsolute p = true := by
  rw [← root_mem_trail_iff, ← List.mem_reverse]
  show _ ↔ _ ∈ resolve p
  rw [resolve_eq_components, Location.components]
  cases (location p).origin <;> simp [Location.lead]

/-- `normalize` by its components: a dot where the path is read, and what the location is written
with elsewhere. -/
theorem components_normalize_eq (p : String) :
    components (normalize p) = if location p = .here then [.here] else (location p).components := by
  split
  · rename_i hhere
    rw [normalize_eq_text, hhere]
    decide
  · rename_i hne
    cases h : isAbsolute p with
    | true => rw [components_normalize h, resolve_eq_components]
    | false =>
      have hplain : ∀ c ∈ (location p).components, c.IsPlain := by
        intro c hc
        rw [← resolve_eq_components] at hc
        exact isPlain_of_mem_trail_of_relative h (List.mem_reverse.mp hc)
      rw [normalize_eq_text, Location.text, if_neg hne, components_ofComponents hplain]

/-- **The canonical form of a path writes down where the path leads.** It is a dot alone, or the
root or any number of `..` followed by names, and this is also how it is read; no name is empty, has
a slash or is made of one or two dots. It is absolute if the path is, it leads to the same location,
and it is the same for all paths that lead there. It is its own canonical form, and the directory
that a path is seen from may be made canonical first. -/
theorem normalize_writes_location (p : String) :
    (location p = .here ∧ normalize p = "." ∨
      location p ≠ .here ∧ ∃ origin names, location p = ⟨origin, names⟩ ∧
        components (normalize p) = Location.lead origin ++ names.map .name ∧
        normalize p = ofComponents (Location.lead origin ++ names.map .name) ∧
        ∀ s ∈ names, '/' ∉ s.toList ∧ s ≠ "" ∧ s ≠ "." ∧ s ≠ "..") ∧
    isAbsolute (normalize p) = isAbsolute p ∧ (isAbsolute p = true ↔ (location p).origin = .root) ∧
    location (normalize p) = location p ∧
    (∀ q, normalize q = normalize p ↔ location q = location p) ∧
    normalize (normalize p) = normalize p ∧
    ∀ q, normalize (join (normalize p) q) = normalize (join p q) := by
  refine ⟨?_, isAbsolute_normalize p, (origin_eq_root_iff p).symm, location_normalize p,
    fun q => normalize_eq_normalize_iff, normalize_normalize p, normalize_join_normalize p⟩
  by_cases hhere : location p = .here
  · refine .inl ⟨hhere, ?_⟩
    rw [normalize_eq_text, hhere]
    rfl
  · refine .inr ⟨hhere, (location p).origin, (location p).names, rfl, ?_, ?_, ?_⟩
    · rw [components_normalize_eq, if_neg hhere]
      rfl
    · rw [normalize_eq_text, Location.text, if_neg hhere]
      rfl
    · intro s hs
      exact Component.isPlain_name_iff.mp (isPlain_of_mem_names hs)

end CallReach.Path
