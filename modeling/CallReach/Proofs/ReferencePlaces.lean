import CallReach.Proofs.IndexCorrect
import Mathlib.Data.List.Infix

/-!
# Where references belong

A walk adds what it meets to the body on top of its stack. Here the stack is taken from the outline:
every outline has a place, the places around it are those on the way to it, and the innermost of
these that opens a body is the body that the outline belongs to. So a body refers to what stands in
it and in no body within it, and what stands in no body belongs to nobody.

## Key results

- `opens_closure`: a closure opens a body where there is a body around it
- `bodyAround?_eq_some_iff`: the innermost body around a place
- `referencesByPlace`: the references that belong to the body around a forest
- `bodiesByPlace`: the bodies of a forest, one for each place that opens one
- `bodiesOf_functionsIn`: what stands in no function changes no body
- `references_of_innermost_body`: what the bodies of a file refer to
-/

namespace CallReach.Source

/-! ## Places -/

/-- A place in a forest: the number of an outline, then the number of one `inside` it, and so on. -/
abbrev Address := List Nat

/-- The outline at a place. -/
def outlineAt? (os : Forest) : Address → Option Outline
  | [] => none
  | [i] => os[i]?
  | i :: j :: p => os[i]?.bind fun o => outlineAt? o.inside (j :: p)

/-- The places on the way to a place, the innermost first. -/
def around (p : Address) : List Address := p.inits.dropLast.reverse

/-- Whether the outline is a function. -/
def Outline.isFunction : Outline → Bool
  | .function .. => true
  | _ => false

/-- The name of the type of an `impl` block, or of a `trait` block. -/
def Outline.owner? : Outline → Option String
  | .owner type _ => some type.text
  | _ => none

/-- The row of a function or closure, and whether it is a closure. -/
def Outline.opening? : Outline → Option (Nat × Bool)
  | .closure row _ => some (row, true)
  | .function _ row _ _ => some (row, false)
  | _ => none

/-- The path looks like that of a function: its last segment starts with a lower-case letter or with
an underscore. -/
def NamesFunction (path : List Name) : Prop :=
  ∃ front last c rest, path = front ++ [last] ∧ last.text.toList = c :: rest ∧
    (Text.isLowercase c = true ∨ c = '_')

/-- The segments that stand for a path below the given owners: a leading `Self` is the innermost of
these. -/
inductive Owned (owners : List String) : List Name → List String → Prop where
  | plain {first : Name} {rest : List Name} (h : first.text ≠ "Self") :
      Owned owners (first :: rest) (first.text :: rest.map (·.text))
  | self {first : Name} {rest : List Name} {owner : String} (h : first.text = "Self")
      (howner : owners.head? = some owner) :
      Owned owners (first :: rest) (owner :: rest.map (·.text))

/-- The outline makes a reference by itself, below the given owners. -/
def Outline.Makes (owners : List String) (o : Outline) (r : Reference) : Prop :=
  match o with
  | .mention path =>
    NamesFunction path ∧ ∃ segments, Owned owners path segments ∧
      r = .path (Text.joinSegments segments)
  | .method name => r = .method name.text
  | _ => False

/-- Whether a body is opened at a place: by a function, or by a closure with a function around
it. -/
def opens (os : Forest) (p : Address) : Bool :=
  match outlineAt? os p with
  | some (.function ..) => true
  | some (.closure ..) => (around p).any fun q => (outlineAt? os q).any (·.isFunction)
  | _ => false

/-- The place of the innermost body around a place. -/
def bodyAround? (os : Forest) (p : Address) : Option Address := (around p).find? (opens os)

/-- The owners around a place, the innermost first. -/
def ownersAround (os : Forest) (p : Address) : List String :=
  (around p).filterMap fun q => (outlineAt? os q).bind (·.owner?)

variable {root : Forest}

private theorem looksCallable_iff {path : List Name} :
    looksCallable path = true ↔ NamesFunction path := by
  rcases List.eq_nil_or_concat path with rfl | ⟨front, last, rfl⟩
  · simp [looksCallable, NamesFunction]
  · simp only [looksCallable, NamesFunction, List.concat_eq_append, List.getLast?_concat]
    constructor
    · intro hlooks
      cases htext : last.text.toList with
      | nil => simp [htext] at hlooks
      | cons c rest => exact ⟨front, last, c, rest, rfl, htext, by simpa [htext] using hlooks⟩
    · rintro ⟨front', last', c, rest, hpath, htext, hstart⟩
      obtain ⟨-, hlast⟩ := List.append_inj' hpath rfl
      obtain rfl : last = last' := List.head_eq_of_cons_eq hlast
      simpa [htext] using hstart

private theorem ownedPath?_eq_some_iff {owners : List String} {path : List Name}
    {segments : List String} (hne : path ≠ []) :
    Collector.ownedPath? owners (path.map (·.text)) = some segments ↔
      Owned owners path segments := by
  obtain ⟨first, rest, rfl⟩ := List.exists_cons_of_ne_nil hne
  rw [List.map_cons, Collector.ownedPath?]
  split
  · rename_i hself
    rw [Option.map_eq_some_iff]
    constructor
    · rintro ⟨owner, howner, rfl⟩
      exact .self hself howner
    · rintro (⟨hplain⟩ | ⟨-, howner⟩)
      · exact absurd hself hplain
      · exact ⟨_, howner, rfl⟩
  · rename_i hplain
    rw [Option.some.injEq]
    constructor
    · rintro rfl
      exact .plain hplain
    · rintro (- | ⟨hself, -⟩)
      · rfl
      · exact absurd hself hplain

/-- `mentioned?` is what `Outline.Makes` says of a mention. -/
private theorem mentioned?_eq_some_iff {owners : List String} {path : List Name} {r : Reference} :
    mentioned? owners path = some r ↔ (Outline.mention path).Makes owners r := by
  unfold mentioned? Outline.Makes
  split
  · rename_i hcallable
    have hne : path ≠ [] := by
      rintro rfl
      cases hcallable
    simp only [Option.map_eq_some_iff, ownedPath?_eq_some_iff hne, looksCallable_iff.mp hcallable,
      true_and, eq_comm (a := r)]
  · rename_i hnot
    rw [looksCallable_iff] at hnot
    simp [hnot]

/-- `around` one level further in. -/
@[simp] theorem around_concat (p : Address) (i : Nat) : around (p ++ [i]) = p :: around p := by
  have hinits : p.inits = p.inits.dropLast ++ [p] := by
    induction p using List.reverseRecOn with
    | nil => rfl
    | append_singleton p j ih => simp [List.inits_append]
  -- `inits` ends with the whole list, which `dropLast` takes off again.
  simp only [around, List.inits_append]
  rw [hinits]
  simp

/-- `around p` are the proper prefixes of `p`. -/
private theorem mem_around_iff {p q : Address} : q ∈ around p ↔ q <+: p ∧ q ≠ p := by
  induction p using List.reverseRecOn with
  | nil => simp [around]
  | append_singleton p i ih =>
    rw [around_concat, List.mem_cons, ih, List.prefix_concat_iff]
    constructor
    · rintro (rfl | ⟨hle, -⟩)
      · exact ⟨.inr List.prefix_rfl, by simp⟩
      · refine ⟨.inr hle, ?_⟩
        rintro rfl
        -- No prefix of `p` is as long as `p ++ [i]`.
        have hlength := hle.length_le
        rw [List.length_append, List.length_singleton] at hlength
        omega
    · rintro ⟨rfl | hle, hne⟩
      · exact absurd rfl hne
      · by_cases hq : q = p
        · exact .inl hq
        · exact .inr ⟨hle, hq⟩

/-- `outlineAt?` goes into the outline at `p` to follow the rest of the address. -/
private theorem outlineAt?_append {p q : Address} (hp : p ≠ []) (hq : q ≠ []) :
    outlineAt? root (p ++ q) = (outlineAt? root p).bind fun o => outlineAt? o.inside q := by
  induction p generalizing root with
  | nil => exact absurd rfl hp
  | cons i p ih =>
    cases p with
    | nil =>
      obtain ⟨j, q, rfl⟩ := List.exists_cons_of_ne_nil hq
      rfl
    | cons j p =>
      simp only [List.cons_append, outlineAt?, Option.bind_assoc]
      refine Option.bind_congr fun o _ => ?_
      exact ih (List.cons_ne_nil j p)

/-- `os` are the outlines with the numbers `n`, `n + 1`, … below `a`. -/
def Sits (root : Forest) (a : Address) (n : Nat) (os : Forest) : Prop :=
  ∀ i, outlineAt? root (a ++ [n + i]) = os[i]?

private theorem sits_self (os : Forest) : Sits os [] 0 os := by
  intro i
  simp [outlineAt?]

/-- The outlines `inside` that at `p` are numbered from 0. -/
private theorem sits_inside {p : Address} {o : Outline} (h : outlineAt? root p = some o) :
    Sits root p 0 o.inside := by
  intro i
  have hp : p ≠ [] := by
    rintro rfl
    cases h
  rw [outlineAt?_append hp (List.cons_ne_nil _ _), h]
  simp [outlineAt?]

namespace Sits

variable {a : Address} {n : Nat} {o : Outline} {os : Forest}

theorem head (h : Sits root a n (o :: os)) : outlineAt? root (a ++ [n]) = some o := by
  simpa using h 0

theorem tail (h : Sits root a n (o :: os)) : Sits root a (n + 1) os := by
  intro i
  have hnext := h (i + 1)
  rwa [List.getElem?_cons_succ, ← Nat.add_assoc, Nat.add_right_comm] at hnext

/-- Behind the last outline below `a` there is nothing, however far in. -/
private theorem eq_none_of_nil (h : Sits root a n []) (i : Nat) (q : Address) :
    outlineAt? root (a ++ (n + i) :: q) = none := by
  have hplace : a ++ (n + i) :: q = (a ++ [n + i]) ++ q := by simp
  rw [hplace]
  cases q with
  | nil => simpa using h i
  | cons j q => rw [outlineAt?_append (by simp) (List.cons_ne_nil j q), h i]; rfl

end Sits

/-! ## Bodies around a place -/

/-- `bodyAround?` depends on what is around a place only, so it is the same for all outlines of a
forest. -/
private theorem bodyAround?_concat (p : Address) (i j : Nat) :
    bodyAround? root (p ++ [i]) = bodyAround? root (p ++ [j]) := by
  simp [bodyAround?]

/-- `ownersAround` is the same for all outlines of a forest. -/
private theorem ownersAround_concat (p : Address) (i j : Nat) :
    ownersAround root (p ++ [i]) = ownersAround root (p ++ [j]) := by
  simp [ownersAround]

private theorem bodyAround?_of_opens {p : Address} (h : opens root p = true) (i : Nat) :
    bodyAround? root (p ++ [i]) = some p := by
  simp [bodyAround?, h]

private theorem bodyAround?_of_not_opens {p : Address} (h : opens root p = false) (i : Nat) :
    bodyAround? root (p ++ [i]) = bodyAround? root p := by
  simp [bodyAround?, h]

/-- `ownersAround` inside an `impl` or `trait` block has the name of its type in front. -/
private theorem ownersAround_inside {p : Address} {o : Outline} (h : outlineAt? root p = some o)
    (i : Nat) :
    ownersAround root (p ++ [i]) = o.owner?.toList ++ ownersAround root p := by
  rw [ownersAround, around_concat, List.filterMap_cons, h, Option.bind_some]
  cases o.owner? <;> rfl

private theorem opens_function {p : Address} {name : Name} {row : Nat} {associated : Bool}
    {inside : Forest} (h : outlineAt? root p = some (.function name row associated inside)) :
    opens root p = true := by
  rw [opens, h]

/-- A closure `opens` a body where there is a body around it: the outermost body around it is a
function. -/
theorem opens_closure {p : Address} {row : Nat} {inside : Forest}
    (h : outlineAt? root p = some (.closure row inside)) :
    opens root p = (bodyAround? root p).isSome := by
  rw [opens, h, bodyAround?, Bool.eq_iff_iff, List.any_eq_true, List.find?_isSome]
  constructor
  · rintro ⟨q, hq, hfunction⟩
    refine ⟨q, hq, ?_⟩
    rw [Option.any_eq_true] at hfunction
    obtain ⟨o, ho, hfunction⟩ := hfunction
    cases o with
    | function name row associated inside => exact opens_function ho
    | _ => cases hfunction
  · rintro ⟨q, hq, hopens⟩
    unfold opens at hopens
    split at hopens
    · rename_i hfunction
      exact ⟨q, hq, by simp [hfunction, Outline.isFunction]⟩
    · -- The body around is a closure, so there is a function further out.
      obtain ⟨q', hq', hfunction⟩ := List.any_eq_true.mp hopens
      obtain ⟨hp, hne⟩ := mem_around_iff.mp hq
      obtain ⟨hp', hne'⟩ := mem_around_iff.mp hq'
      refine ⟨q', mem_around_iff.mpr ⟨hp'.trans hp, ?_⟩, hfunction⟩
      rintro rfl
      exact hne' (hp'.eq_of_length_le hp.length_le)
    · cases hopens

private theorem not_opens_of_opening? {p : Address} {o : Outline} (h : outlineAt? root p = some o)
    (ho : o.opening? = none) :
    opens root p = false := by
  rw [opens, h]
  cases o with
  | function | closure => cases ho
  | _ => rfl

private theorem mem_around_of_bodyAround? {p q : Address} (h : bodyAround? root p = some q) :
    q <+: p ∧ q ≠ p ∧ opens root q = true :=
  have hmem := mem_around_iff.mp (List.mem_of_find?_eq_some h)
  ⟨hmem.1, hmem.2, List.find?_some h⟩

/-- A place that `opens` a body is the `bodyAround?` of what is in it, or around that body. -/
private theorem exists_bodyAround?_of_opens {p q : Address} (hopens : opens root p = true)
    (hle : p <+: q) (hne : p ≠ q) :
    ∃ t, bodyAround? root q = some t ∧ p <+: t := by
  -- By induction on the way from `p` to `q`, from its end.
  induction q using List.reverseRecOn with
  | nil => exact absurd (List.prefix_nil.mp hle) hne
  | append_singleton q i ih =>
    rcases List.prefix_concat_iff.mp hle with rfl | hq
    · exact absurd rfl hne
    · cases hlast : opens root q with
      | true => exact ⟨q, bodyAround?_of_opens hlast i, hq⟩
      | false =>
        have hpq : p ≠ q := by
          rintro rfl
          rw [hopens] at hlast
          cases hlast
        rw [bodyAround?_of_not_opens hlast]
        exact ih hq hpq

/-- `bodyAround? root q` is the longest address of a body around `q`. -/
theorem bodyAround?_eq_some_iff {p q : Address} :
    bodyAround? root q = some p ↔
      opens root p = true ∧ p <+: q ∧ p ≠ q ∧ ∀ s, opens root s = true → s <+: q → s ≠ q →
        s <+: p := by
  constructor
  · intro h
    obtain ⟨hle, hne, hopens⟩ := mem_around_of_bodyAround? h
    refine ⟨hopens, hle, hne, ?_⟩
    intro s hs hsq hne'
    obtain ⟨t, ht, hst⟩ := exists_bodyAround?_of_opens hs hsq hne'
    rw [h, Option.some.injEq] at ht
    rwa [ht]
  · rintro ⟨hopens, hle, hne, hleast⟩
    obtain ⟨t, ht, hpt⟩ := exists_bodyAround?_of_opens hopens hle hne
    obtain ⟨htq, hne', ht'⟩ := mem_around_of_bodyAround? ht
    -- Each of the two goes on to the other.
    rw [ht, hpt.eq_of_length_le (hleast t ht' htq hne').length_le]

/-- Inside a place that `opens` a body, `bodyAround?` is not what it is at the place. -/
private theorem bodyAround?_ne_of_opens {p q : Address} (hopens : opens root p = true)
    (hle : p <+: q) (hne : p ≠ q) :
    bodyAround? root q ≠ bodyAround? root p := by
  intro heq
  obtain ⟨t, ht, hpt⟩ := exists_bodyAround?_of_opens hopens hle hne
  obtain ⟨htp, hneq, -⟩ := mem_around_of_bodyAround? (heq ▸ ht)
  exact hneq (htp.eq_of_length_le hpt.length_le)

/-! ## References by their places -/

/-- `q` is a place below `a`, in the outline number `n` there or in a later one. -/
def Under (a : Address) (n : Nat) (q : Address) : Prop := ∃ i x, q = a ++ (n + i) :: x

private theorem under_iff {a q : Address} {n : Nat} :
    Under a n q ↔ a ++ [n] <+: q ∨ Under a (n + 1) q := by
  constructor
  · rintro ⟨i, x, rfl⟩
    cases i with
    | zero => exact .inl ⟨x, by simp⟩
    | succ i => exact .inr ⟨i, x, by rw [Nat.add_right_comm]; rfl⟩
  · rintro (⟨x, rfl⟩ | ⟨i, x, rfl⟩)
    · exact ⟨0, x, by simp⟩
    · exact ⟨i + 1, x, by rw [Nat.add_right_comm]; rfl⟩

/-- A place in the outline at `p` is `p` itself, or `Under` it. -/
private theorem prefix_iff_under {p q : Address} : p <+: q ↔ q = p ∨ Under p 0 q := by
  constructor
  · rintro ⟨x, rfl⟩
    cases x with
    | nil => exact .inl (List.append_nil p)
    | cons i x => exact .inr ⟨i, x, by rw [Nat.zero_add]⟩
  · rintro (rfl | ⟨i, x, rfl⟩)
    · exact List.prefix_rfl
    · exact List.prefix_append _ _

/-- An outline comes before what is inside it, in the lexicographic order of addresses. -/
private theorem lt_of_under {p q : Address} {n : Nat} (h : Under p n q) : p < q := by
  obtain ⟨i, x, rfl⟩ := h
  have hnil : p ++ [] < p ++ (n + i) :: x := List.append_left_lt (List.nil_lt_cons _ _)
  rwa [List.append_nil] at hnil

/-- What is in one outline comes before what is in a later one next to it. -/
private theorem lt_of_prefix_of_under {a p q : Address} {n : Nat} (hp : a ++ [n] <+: p)
    (hq : Under a (n + 1) q) : p < q := by
  obtain ⟨x, rfl⟩ := hp
  obtain ⟨i, y, rfl⟩ := hq
  rw [List.append_assoc]
  apply List.append_left_lt
  rw [List.singleton_append, List.cons_lt_cons_iff]
  exact .inl (by omega)

/-- The outline at `q` `Makes` the reference. -/
def RefersTo (root : Forest) (q : Address) (r : Reference) : Prop :=
  ∃ o, outlineAt? root q = some o ∧ o.Makes (ownersAround root q) r

private theorem Sits.not_refersTo {a q : Address} {n : Nat} (h : Sits root a n [])
    (hq : Under a n q) {r : Reference} :
    ¬ RefersTo root q r := by
  obtain ⟨i, x, rfl⟩ := hq
  rintro ⟨o, ho, -⟩
  rw [h.eq_none_of_nil] at ho
  cases ho

/-- A reference is made in the outline at `p`, but not in a body that is opened at `p` or inside. -/
def MakesReference (root : Forest) (p : Address) (r : Reference) : Prop :=
  ∃ q, RefersTo root q r ∧ p <+: q ∧ bodyAround? root q = bodyAround? root p

variable {p : Address} {o : Outline} {r : Reference}

/-- An outline with nothing inside makes the reference that it `Makes` by itself. -/
private theorem makesReference_of_leaf (hplace : outlineAt? root p = some o)
    (hnil : o.inside = []) :
    MakesReference root p r ↔ o.Makes (ownersAround root p) r := by
  have hsits := sits_inside hplace
  rw [hnil] at hsits
  constructor
  · rintro ⟨q, hrefers, hle, -⟩
    rcases prefix_iff_under.mp hle with rfl | hunder
    · simpa [RefersTo, hplace] using hrefers
    · exact absurd hrefers (hsits.not_refersTo hunder)
  · intro hr
    exact ⟨p, ⟨o, hplace, hr⟩, List.prefix_rfl, rfl⟩

/-- No reference of `MakesReference` comes from a place that opens a body. -/
private theorem not_makesReference_of_opens (hplace : outlineAt? root p = some o)
    (hopens : opens root p = true) (hnone : ¬ o.Makes (ownersAround root p) r) :
    ¬ MakesReference root p r := by
  rintro ⟨q, hrefers, hle, heq⟩
  -- The outline itself makes none, and what is inside belongs to the new body.
  by_cases hq : p = q
  · subst hq
    simp [RefersTo, hplace, hnone] at hrefers
  · exact bodyAround?_ne_of_opens hopens hle hq heq

/-- If no body is opened at `p`, the references are those made `Under` it. -/
private theorem makesReference_of_not_opens (hplace : outlineAt? root p = some o)
    (hopens : opens root p = false) (hnone : ¬ o.Makes (ownersAround root p) r) :
    MakesReference root p r ↔
      ∃ q, RefersTo root q r ∧ Under p 0 q ∧ bodyAround? root q = bodyAround? root (p ++ [0]) := by
  rw [bodyAround?_of_not_opens hopens]
  constructor
  · rintro ⟨q, hrefers, hle, heq⟩
    rcases prefix_iff_under.mp hle with rfl | hunder
    · simp [RefersTo, hplace, hnone] at hrefers
    · exact ⟨q, hrefers, hunder, heq⟩
  · rintro ⟨q, hrefers, hunder, heq⟩
    exact ⟨q, hrefers, prefix_iff_under.mpr (.inr hunder), heq⟩

/-- `referencesIn` a forest with a body around it are the references made in it that have the same
`bodyAround?`. -/
def ReferencesByPlace (root os : Forest) : Prop :=
  ∀ {a : Address} {n : Nat}, Sits root a n os → (bodyAround? root (a ++ [n])).isSome = true → ∀ r,
    r ∈ referencesIn (ownersAround root (a ++ [n])) os ↔
      ∃ q, RefersTo root q r ∧ Under a n q ∧ bodyAround? root q = bodyAround? root (a ++ [n])

/-- If `ReferencesByPlace` holds inside an outline, its `references` are those of
`MakesReference`. -/
theorem ReferencesByPlace.references (hinside : ReferencesByPlace root o.inside)
    (hplace : outlineAt? root p = some o) (hbody : (bodyAround? root p).isSome = true)
    (r : Reference) :
    r ∈ o.references (ownersAround root p) ↔ MakesReference root p r := by
  -- Modules, blocks and invocations let the references inside them through.
  have hthrough : o.opening? = none → ¬ o.Makes (ownersAround root p) r →
      (r ∈ referencesIn (o.owner?.toList ++ ownersAround root p) o.inside ↔
        MakesReference root p r) := by
    intro hopening hnone
    have hopens := not_opens_of_opening? hplace hopening
    have hsame := bodyAround?_of_not_opens hopens 0
    rw [makesReference_of_not_opens hplace hopens hnone, ← ownersAround_inside hplace 0]
    exact hinside (sits_inside hplace) (by rw [hsame, hbody]) r
  cases o with
  | mention path =>
    rw [makesReference_of_leaf hplace rfl, ← mentioned?_eq_some_iff]
    simp [Outline.references]
  | method name =>
    rw [makesReference_of_leaf hplace rfl]
    simp [Outline.references, Outline.Makes]
  | closure row inside =>
    -- There is a body around, so the closure opens one.
    have hopens : opens root p = true := by rw [opens_closure hplace, hbody]
    rw [iff_false_right (not_makesReference_of_opens hplace hopens id)]
    simp [Outline.references]
  | function name row associated inside =>
    rw [iff_false_right (not_makesReference_of_opens hplace (opens_function hplace) id)]
    simp [Outline.references]
  | owner | module => exact hthrough rfl id
  | invocation arguments =>
    cases arguments with
    | some arguments => exact hthrough rfl id
    | none =>
      rw [makesReference_of_leaf hplace rfl]
      simp [Outline.references, Outline.Makes]
  | requirement | moduleFile =>
    rw [makesReference_of_leaf hplace rfl]
    simp [Outline.references, Outline.Makes]

/-- `ReferencesByPlace` holds for every forest, by induction over outlines and forests. -/
theorem referencesByPlace (os : Forest) : ReferencesByPlace root os := by
  induction os using Forest.induction with
  | nil =>
    intro a n hsits _ r
    simp only [referencesIn, List.not_mem_nil, false_iff]
    rintro ⟨q, hrefers, hunder, -⟩
    exact hsits.not_refersTo hunder hrefers
  | cons o os hinside hos =>
    intro a n hsits hbody r
    have hbody' := @bodyAround?_concat root a (n + 1) n
    have howners' := @ownersAround_concat root a (n + 1) n
    have hrest := hos hsits.tail (by rw [hbody', hbody]) r
    rw [howners', hbody'] at hrest
    -- A place below `a` from number `n` on is in the first outline or in one of the others.
    rw [referencesIn, List.mem_append, hinside.references hsits.head hbody, hrest, MakesReference,
      ← exists_or]
    refine exists_congr fun q => ?_
    rw [@under_iff a q n]
    tauto

/-! ## Bodies by their places -/

/-- The body that is opened at a place: it has the row and the kind of the function or closure
there, and refers to what belongs to that place. -/
structure BodyAt (root : Forest) (p : Address) (b : Body) : Prop where
  opening : (outlineAt? root p).bind (·.opening?) = some (b.row, b.closure)
  references : ∀ r, r ∈ b.references ↔ ∃ q, RefersTo root q r ∧ bodyAround? root q = some p

/-- A body that starts without references and gets the `referencesIn` what is inside is as `BodyAt`
says. -/
private theorem bodyAt_refer {p : Address} {o : Outline} (hplace : outlineAt? root p = some o)
    (hopens : opens root p = true) {b : Body} (hopening : o.opening? = some (b.row, b.closure))
    (hempty : ∀ r, r ∉ b.references) :
    BodyAt root p (b.refer (referencesIn (ownersAround root (p ++ [0])) o.inside)) where
  opening := by
    rw [hplace, Option.bind_some, hopening]
    rfl
  references := by
    intro r
    have hbody := bodyAround?_of_opens hopens 0
    have hinside := referencesByPlace o.inside (sits_inside hplace) (by rw [hbody]; rfl) r
    rw [hbody] at hinside
    rw [Body.mem_refer_references_iff, hinside]
    constructor
    · rintro (⟨q, hrefers, -, heq⟩ | hr)
      · exact ⟨q, hrefers, heq⟩
      · exact absurd hr (hempty r)
    · rintro ⟨q, hrefers, heq⟩
      -- What has the body at `p` around it is inside `p`.
      obtain ⟨hle, hne, -⟩ := mem_around_of_bodyAround? heq
      exact .inl ⟨q, hrefers, (prefix_iff_under.mp hle).resolve_left (Ne.symm hne), heq⟩

/-- `bodies` are those opened at the places that satisfy `within`, one for each, in the order of the
places. -/
def BodiesAt (root : Forest) (within : Address → Prop) (bodies : List Body) : Prop :=
  ∃ places : List Address, places.Pairwise (· < ·) ∧
    (∀ p, p ∈ places ↔ opens root p = true ∧ within p) ∧
    List.Forall₂ (BodyAt root) places bodies

namespace BodiesAt

variable {within within' : Address → Prop} {bodies bodies' : List Body}

/-- `BodiesAt` looks only at places that open a body. -/
theorem congr (h : BodiesAt root within bodies)
    (hsame : ∀ p, opens root p = true → (within p ↔ within' p)) :
    BodiesAt root within' bodies := by
  obtain ⟨places, hsorted, hmem, hbodies⟩ := h
  refine ⟨places, hsorted, ?_, hbodies⟩
  intro p
  rw [hmem]
  exact and_congr_right (hsame p)

/-- `BodiesAt` for two kinds of places, those of the second being later than those of the first. -/
theorem append (h : BodiesAt root within bodies) (h' : BodiesAt root within' bodies')
    (hlater : ∀ p q, within p → within' q → p < q) :
    BodiesAt root (fun p => within p ∨ within' p) (bodies ++ bodies') := by
  obtain ⟨places, hsorted, hmem, hbodies⟩ := h
  obtain ⟨places', hsorted', hmem', hbodies'⟩ := h'
  refine ⟨places ++ places', ?_, ?_, List.rel_append hbodies hbodies'⟩
  · refine List.pairwise_append.mpr ⟨hsorted, hsorted', ?_⟩
    intro p hp q hq
    exact hlater p q ((hmem p).mp hp).2 ((hmem' q).mp hq).2
  · intro p
    rw [List.mem_append, hmem, hmem', ← and_or_left]

theorem singleton {b : Body} (hopens : opens root p = true) (hb : BodyAt root p b) :
    BodiesAt root (· = p) [b] := by
  refine ⟨[p], List.pairwise_singleton _ _, ?_, .cons hb .nil⟩
  intro q
  rw [List.mem_singleton]
  constructor
  · rintro rfl
    exact ⟨hopens, rfl⟩
  · exact And.right

end BodiesAt

/-- `bodiesIn` a forest are those opened at the places of the forest, if `holder` says whether there
is a body around it. -/
def BodiesByPlace (root os : Forest) : Prop :=
  ∀ {a : Address} {n : Nat} (scope : ModulePath) (holder : Option Holder) (before : Nat),
    Sits root a n os →
    holder.isSome = (bodyAround? root (a ++ [n])).isSome →
    BodiesAt root (Under a n) (bodiesIn scope (ownersAround root (a ++ [n])) holder before os)

/-- A place that `opens` a body gives this body, and then those inside. -/
theorem BodiesByPlace.opened (hinside : BodiesByPlace root o.inside)
    (hplace : outlineAt? root p = some o) (hopens : opens root p = true) (scope : ModulePath)
    {b : Body} (hopening : o.opening? = some (b.row, b.closure)) (hempty : ∀ r, r ∉ b.references) :
    BodiesAt root (p <+: ·) (b.refer (referencesIn (ownersAround root p) o.inside) ::
      bodiesIn scope (ownersAround root p) (some b.holder) 0 o.inside) := by
  have howners : ownersAround root (p ++ [0]) = ownersAround root p := by
    rw [ownersAround_inside hplace]
    cases o with
    | function | closure => rfl
    | _ => cases hopening
  have hbody := bodyAt_refer hplace hopens hopening hempty
  have hbodies :=
    hinside scope (some b.holder) 0 (sits_inside hplace) (by rw [bodyAround?_of_opens hopens]; rfl)
  rw [howners] at hbody hbodies
  -- The body comes first, then those inside, at later places.
  refine ((BodiesAt.singleton hopens hbody).append hbodies ?_).congr ?_
  · rintro q q' rfl hunder
    exact lt_of_under hunder
  · intro q _
    exact prefix_iff_under.symm

/-- A place that opens no body gives those inside only. -/
private theorem BodiesByPlace.passed (hinside : BodiesByPlace root o.inside)
    (hplace : outlineAt? root p = some o) (hopens : opens root p = false) (scope : ModulePath)
    (holder : Option Holder) (before : Nat)
    (hholder : holder.isSome = (bodyAround? root p).isSome) :
    BodiesAt root (p <+: ·)
      (bodiesIn scope (o.owner?.toList ++ ownersAround root p) holder before o.inside) := by
  have hholder' : holder.isSome = (bodyAround? root (p ++ [0])).isSome := by
    rw [bodyAround?_of_not_opens hopens, hholder]
  have hbodies := hinside scope holder before (sits_inside hplace) hholder'
  rw [ownersAround_inside hplace] at hbodies
  refine hbodies.congr ?_
  intro q hq
  rw [prefix_iff_under, or_iff_right]
  rintro rfl
  rw [hopens] at hq
  cases hq

/-- If `BodiesByPlace` holds inside an outline, its `bodies` are those opened at the places in
it. -/
theorem BodiesByPlace.bodies (hinside : BodiesByPlace root o.inside)
    (hplace : outlineAt? root p = some o) (scope : ModulePath) (holder : Option Holder)
    (before : Nat) (hholder : holder.isSome = (bodyAround? root p).isSome) :
    BodiesAt root (p <+: ·) (o.bodies scope (ownersAround root p) holder before) := by
  have hempty : ∀ r : Reference, r ∉ (∅ : Std.TreeSet Reference) :=
    fun r => Std.TreeSet.not_mem_emptyc
  cases o with
  | mention | method | requirement | moduleFile =>
    exact hinside.passed hplace (not_opens_of_opening? hplace rfl) scope holder before hholder
  | closure row inside =>
    -- The walk has a body for the closure to be named after exactly if there is one around the
    -- place.
    have hopens := opens_closure hplace
    rw [← hholder] at hopens
    cases holder with
    | none => exact hinside.passed hplace hopens scope none 0 hholder
    | some h => exact hinside.opened hplace hopens scope rfl hempty
  | function name row associated inside =>
    exact hinside.opened hplace (opens_function hplace) scope rfl hempty
  | owner | module =>
    exact hinside.passed hplace (not_opens_of_opening? hplace rfl) _ holder before hholder
  | invocation arguments =>
    have hpassed :=
      hinside.passed hplace (not_opens_of_opening? hplace rfl) scope holder before hholder
    cases arguments <;> exact hpassed

/-- `BodiesByPlace` holds for every forest, by induction over outlines and forests. -/
theorem bodiesByPlace (os : Forest) : BodiesByPlace root os := by
  induction os using Forest.induction with
  | nil =>
    intro a n scope holder before hsits _
    refine ⟨[], .nil, ?_, .nil⟩
    intro p
    simp only [List.not_mem_nil, false_iff]
    rintro ⟨hopens, i, x, rfl⟩
    rw [opens, hsits.eq_none_of_nil] at hopens
    cases hopens
  | cons o os hinside hos =>
    intro a n scope holder before hsits hholder
    have hbody' := @bodyAround?_concat root a (n + 1) n
    have howners' := @ownersAround_concat root a (n + 1) n
    have hfirst := hinside.bodies hsits.head scope holder before hholder
    have hrest := hos scope holder (before + o.closures) hsits.tail (by rw [hbody', hholder])
    rw [howners'] at hrest
    rw [bodiesIn]
    -- The bodies of `o` come before those of `os`, and so do their places.
    refine (hfirst.append hrest ?_).congr ?_
    · intro p q hp hq
      exact lt_of_prefix_of_under hp hq
    · intro p _
      exact under_iff.symm

/-! ## Arguments of invocations -/

/-- The tokens of an invocation are comma-separated expressions. -/
def Grammar.ReadsArguments (g : Grammar) (close : Position) (inside : List Token)
    (arguments : List Expression) : Prop :=
  ∃ rest, Reader.commaSeparated g.expression { tokens := inside, stop := close } =
    .ok (arguments, rest) ∧
    rest.tokens = [] ∧ rest.stray = none

/-- `arguments?` gives the outlines of the expressions if the tokens satisfy `ReadsArguments`. -/
private theorem Grammar.arguments?_eq_some_iff {g : Grammar} {close : Position}
    {inside : List Token} {parts : Forest} :
    g.arguments? close inside = some parts ↔
      ∃ arguments, g.ReadsArguments close inside arguments ∧
        parts = arguments.flatMap (·.parts) := by
  unfold Grammar.arguments? Grammar.ReadsArguments
  cases hread : Reader.commaSeparated g.expression { tokens := inside, stop := close } with
  | error p => simp
  | ok result =>
    obtain ⟨arguments, rest⟩ := result
    simp only [Option.ite_none_right_eq_some, Bool.and_eq_true, List.isEmpty_iff,
      Option.isNone_iff_eq_none, Option.some.injEq, Except.ok.injEq, Prod.mk.injEq]
    constructor
    · rintro ⟨⟨htokens, hstray⟩, rfl⟩
      exact ⟨arguments, ⟨rest, ⟨rfl, rfl⟩, htokens, hstray⟩, rfl⟩
    · rintro ⟨_, ⟨_, ⟨rfl, rfl⟩, htokens, hstray⟩, rfl⟩
      exact ⟨⟨htokens, hstray⟩, rfl⟩

/-- `invocation` reads a group whatever its tokens are. -/
private theorem Grammar.invocation_eq (g : Grammar) (b : Bracket) (pos close stop : Position)
    (inside rest : List Token) (stray : Option Position) :
    g.invocation ⟨.group b pos close inside :: rest, stop, stray⟩ =
      .ok ((b, [.invocation (g.arguments? close inside)]), ⟨rest, stop, stray⟩) := rfl

/-! ## What stands in no body -/

mutual

/-- The functions in an outline, with the modules and blocks around them. -/
def Outline.functions : Outline → Forest
  | .closure _ inside | .invocation (some inside) => functionsIn inside
  | .function name row associated inside => [.function name row associated inside]
  | .owner type inside => [.owner type (functionsIn inside)]
  | .module name inside => [.module name (functionsIn inside)]
  | .mention _ | .method _ | .requirement .. | .moduleFile .. | .invocation none => []

/-- The functions in a forest, with the modules and blocks around them. What stands in no function
is left out. -/
def functionsIn : Forest → Forest
  | [] => []
  | o :: os => o.functions ++ functionsIn os

end

/-- Outside all bodies `visitAll` finds nothing but functions. -/
private theorem Collector.visitAll_functionsIn (os : Forest) (scope : ModulePath)
    (owners : List String) (bodies : List Body) :
    visitAll ⟨scope, owners, [], bodies.toArray⟩ (functionsIn os) =
      visitAll ⟨scope, owners, [], bodies.toArray⟩ os := by
  induction os using Forest.induction generalizing scope owners bodies with
  | nil => rfl
  | cons o os hinside hos =>
    have ho : visitAll ⟨scope, owners, [], bodies.toArray⟩ o.functions =
        visit ⟨scope, owners, [], bodies.toArray⟩ o := by
      cases o with
      | mention path =>
        simp only [Outline.functions, visitAll, visit, recordPath]
        split
        · split <;> rfl
        · rfl
      | method | function | requirement | moduleFile => rfl
      | closure row inside => exact hinside scope owners bodies
      | owner type inside =>
        exact congrArg (leaveScope · true)
          (hinside (scope ++ [type.text]) (type.text :: owners) bodies)
      | module name inside =>
        exact congrArg (leaveScope · false) (hinside (scope ++ [name.text]) owners bodies)
      | invocation arguments =>
        cases arguments with
        | some arguments => exact hinside scope owners bodies
        | none => rfl
    -- The walk over one outline ends outside all bodies again.
    have hclosed := visitAll_closed [o] scope owners bodies 0
    rw [visitAll, visitAll] at hclosed
    rw [functionsIn, visitAll_append, ho, visitAll, hclosed, hos]

/-- `functionsIn` keeps all that `bodiesOf` finds. -/
theorem bodiesOf_functionsIn (m : ModulePath) (os : Forest) :
    bodiesOf m (functionsIn os) = bodiesOf m os := by
  have hwalk := Collector.visitAll_functionsIn os m [] []
  exact congrArg (fun c => c.bodies.toList) hwalk

/-! ## The bodies of a file -/

/-- **References belong to the innermost body around them.** The bodies of a file are those that its
outline opens, in order. Each refers to exactly the paths and methods that the outline mentions
where it is the innermost body: the paths are those that look like functions, and a leading `Self`
is the innermost type of an `impl` or `trait` block around the place. What stands in no function can
be left out of the outline. What is in an `Outline.invocation` are its arguments if its tokens are
comma-separated expressions, and nothing otherwise. -/
theorem references_of_innermost_body {text : String} {source : SourceFile}
    (hread : SourceFile.parse text = .ok source) (file relative : String) :
    ∃ u, SourceUnit.parse file relative text = .ok u ∧
      let os := source.outline
      (∃ places : List Address, places.Pairwise (· < ·) ∧ (∀ p, p ∈ places ↔ opens os p = true) ∧
        List.Forall₂ (BodyAt os) places u.bodies) ∧
      (∀ p q, bodyAround? os q = some p ↔
        opens os p = true ∧ p <+: q ∧ p ≠ q ∧ ∀ s, opens os s = true → s <+: q → s ≠ q → s <+: p) ∧
      u.bodies = bodiesOf u.module (functionsIn os) ∧
      (∀ q arguments, outlineAt? os q = some (.invocation arguments) →
        ∀ i, outlineAt? os (q ++ [i]) = (arguments.getD [])[i]?) ∧
      ∀ (g : Grammar) (b : Bracket) (pos close stop : Position) (inside rest : List Token)
          (stray : Option Position), ∃ arguments,
        g.invocation ⟨.group b pos close inside :: rest, stop, stray⟩ =
          .ok ((b, [.invocation arguments]), ⟨rest, stop, stray⟩) ∧
        ∀ parts, arguments = some parts ↔
          ∃ es, g.ReadsArguments close inside es ∧ parts = es.flatMap (·.parts) := by
  refine ⟨_, by rw [SourceUnit.parse, hread], ?_, fun p q => bodyAround?_eq_some_iff,
    (bodiesOf_functionsIn _ _).symm, ?_, ?_⟩
  · have houtside : (none : Option Holder).isSome =
        (bodyAround? source.outline ([] ++ [0])).isSome := rfl
    obtain ⟨places, hsorted, hmem, hbodies⟩ :=
      bodiesByPlace source.outline (ModulePath.ofFile relative) none 0
        (sits_self source.outline) houtside
    refine ⟨places, hsorted, ?_, ?_⟩
    · intro p
      -- Every place but the empty address is `Under` the forest.
      rw [hmem, and_iff_left_iff_imp]
      intro hopens
      cases p with
      | nil => cases hopens
      | cons i p => exact ⟨i, p, by simp⟩
    · have howners : ownersAround source.outline ([] ++ [0]) = [] := rfl
      rw [howners, ← bodiesOf_eq] at hbodies
      exact hbodies
  · intro q arguments hplace i
    have hne : q ≠ [] := by
      rintro rfl
      cases hplace
    rw [outlineAt?_append hne (List.cons_ne_nil i []), hplace]
    cases arguments <;> rfl
  · intro g b pos close stop inside rest stray
    exact ⟨_, g.invocation_eq b pos close stop inside rest stray, fun _ => g.arguments?_eq_some_iff⟩

/-- A method with a closure that holds a function, invocations, `Self` in a block and outside of
all, and a constant outside all bodies. The method call in the arguments of the invocation belongs
to the closure. -/
theorem references_of_innermost_body_of_nested :
    let text := "impl T \x7b fn f() \x7b Self::a(); |x| \x7b m!(b(), x.c()); fn h() \x7b Self::d(); \x7d \x7d; " ++
      "\x7d \x7d\nconst K: u8 = e();\nfn k() \x7b Self::f(); n!(1 => f()); \x7d"
    ∃ source u, SourceFile.parse text = .ok source ∧ SourceUnit.parse "/a.rs" "a.rs" text = .ok u ∧
      u.bodies.map (fun b => (b.path, b.references.toList)) =
        [("a::T::f", [.path "T::a"]), ("a::T::f$1", [.path "b", .path "x", .method "c"]),
          ("a::T::h", [.path "T::d"]), ("a::k", [])] ∧
      ∃ p b, u.bodies[1]? = some b ∧ opens source.outline p = true ∧ BodyAt source.outline p b ∧
        ∃ q, RefersTo source.outline q (.method "c") ∧ bodyAround? source.outline q = some p := by
  intro text
  have hfacts : (SourceUnit.parse "/a.rs" "a.rs" text).toOption.map
      (fun u => u.bodies.map fun b => (b.path, b.references.toList)) =
      some [("a::T::f", [.path "T::a"]), ("a::T::f$1", [.path "b", .path "x", .method "c"]),
        ("a::T::h", [.path "T::d"]), ("a::k", [])] := by
    decide +kernel
  -- a text that is not read gives no unit either
  obtain ⟨source, hread⟩ : ∃ source, SourceFile.parse text = .ok source := by
    cases hp : SourceFile.parse text with
    | ok source => exact ⟨source, rfl⟩
    | error position =>
      rw [SourceUnit.parse, hp] at hfacts
      cases hfacts
  obtain ⟨u, hu, ⟨places, -, hmem, hbodies⟩, -⟩ := references_of_innermost_body hread "/a.rs" "a.rs"
  rw [hu] at hfacts
  simp only [Except.toOption, Option.map_some, Option.some.injEq] at hfacts
  refine ⟨source, u, hread, hu, hfacts, ?_⟩
  have hsecond := congrArg (·[1]?) hfacts
  simp only [List.getElem?_map, Option.map_eq_some_iff, List.getElem?_cons_succ,
    List.getElem?_cons_zero, Prod.mk.injEq] at hsecond
  obtain ⟨b, hb, -, hreferences⟩ := hsecond
  obtain ⟨p, hp, hplace⟩ : ∃ p ∈ places, BodyAt source.outline p b := by
    have hlt := (List.getElem?_eq_some_iff.mp hb).1
    have hat := hbodies.get (hbodies.length_eq ▸ hlt) hlt
    rw [List.get_eq_getElem, List.get_eq_getElem, (List.getElem?_eq_some_iff.mp hb).2] at hat
    exact ⟨_, List.getElem_mem _, hat⟩
  have hmethod : .method "c" ∈ b.references := by
    rw [← Std.TreeSet.mem_toList, hreferences]
    simp
  exact ⟨p, b, hb, (hmem p).mp hp, hplace, (hplace.references _).mp hmethod⟩

end CallReach.Source
