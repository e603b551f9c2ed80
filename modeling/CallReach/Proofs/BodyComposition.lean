import CallReach.Proofs.BodyWalk
import CallReach.Proofs.ItemReading
import CallReach.Source.Unit

/-!
# Bodies of a file, item by item

A walk opens and closes scopes, owners and bodies as it goes through an item, and gives them back as
it found them: what an item leaves behind are bodies of its own, and what it tells the innermost
body around it. So outside all bodies the bodies of a file are those of its items one after the
other, and an inline module is a module of its own.

## Key results

- `Reached.wellFormed`: in every state of a walk, the open bodies are among those recorded
- `visitAll_cases`: the state after a walk, from every such state
- `bodiesOf_append`, `bodiesOf_module`: the bodies of two lists of items and of an inline module
- `bodiesOf_item_by_item`: what an item leaves as it was, and the bodies of files made of items
-/

namespace CallReach.Source

/-- The outlines of items, one after the other. -/
def outlineOf (items : List ItemTree) : Forest := items.flatMap (·.parts)

namespace Collector

/-! ## States of a walk -/

/-- The states in which a walk through a file of a module comes to an item. It has been through some
outlines, and is in functions, closures, modules and blocks that it has entered. -/
inductive Reached (m : ModulePath) : Collector → Prop where
  | start : Reached m { scope := m }
  | visit {c : Collector} (os : Forest) (h : Reached m c) : Reached m (c.visitAll os)
  | function {c : Collector} (name : String) (row : Nat) (associated : Bool) (h : Reached m c) :
      Reached m (c.enterFunction name row associated)
  | closure {c : Collector} (row : Nat) (h : Reached m c) : Reached m (c.enterClosure row)
  | scope {c : Collector} (name : String) (owner : Bool) (h : Reached m c) :
      Reached m (c.enterScope name owner)

/-- The `frames` point to bodies that have been recorded. -/
def WellFormed (c : Collector) : Prop := ∀ f ∈ c.frames, f.index < c.bodies.size

/-- `visitAll` from a `WellFormed` state. Outside all bodies it adds the bodies of the forest, and
nothing else changes. In a body, the closures that stand directly in it are counted, and it gets the
references that do. -/
theorem visitAll_cases {c : Collector} (h : c.WellFormed) (os : Forest) :
    (c.frames = [] ∧ c.visitAll os =
      { c with bodies := (c.bodies.toList ++ bodiesIn c.scope c.owners none 0 os).toArray }) ∨
    ∃ f fs b, c.frames = f :: fs ∧ c.bodies.toList[f.index]? = some b ∧ c.visitAll os =
      { c with
        frames := { f with closures := f.closures + closuresIn os } :: fs
        bodies := (c.bodies.toList.modify f.index (·.refer (referencesIn c.owners os)) ++
          bodiesIn c.scope c.owners (some b.holder) f.closures os).toArray } := by
  obtain ⟨scope, owners, frames, bodies⟩ := c
  cases frames with
  | nil => exact .inl ⟨rfl, visitAll_closed os scope owners bodies.toList 0⟩
  | cons f fs =>
    have hlt : f.index < bodies.toList.length := h f List.mem_cons_self
    have hget := List.getElem?_eq_getElem hlt
    exact .inr ⟨f, fs, _, rfl, hget,
      visitAll_open os scope owners fs bodies.toList f.index f.closures _ hget⟩

theorem WellFormed.enter {c : Collector} (h : c.WellFormed) (body : Body) :
    (c.enter body).WellFormed := by
  intro f hf
  simp only [Collector.enter, List.mem_cons, Array.size_push] at hf ⊢
  rcases hf with rfl | hf
  · exact Nat.lt_succ_self _
  · exact Nat.lt_succ_of_lt (h f hf)

/-- `enterClosure` keeps the `frames` on recorded bodies, whether it opens one or not. -/
theorem WellFormed.enterClosure {c : Collector} (h : c.WellFormed) (row : Nat) :
    (c.enterClosure row).WellFormed := by
  unfold Collector.enterClosure
  split
  · exact h
  · rename_i frame frames hframes
    -- To count the closure changes no index.
    have hcounted : WellFormed
        { c with frames := { frame with closures := frame.closures + 1 } :: frames } := by
      intro f hf
      rw [WellFormed, hframes, List.forall_mem_cons] at h
      rcases List.mem_cons.mp hf with rfl | hf
      · exact h.1
      · exact h.2 f hf
    dsimp only
    split
    · exact hcounted
    · exact hcounted.enter _

/-- `visitAll` keeps the `frames` on recorded bodies: it gives them back and removes no body. -/
theorem WellFormed.visitAll {c : Collector} (h : c.WellFormed) (os : Forest) :
    (c.visitAll os).WellFormed := by
  rcases visitAll_cases h os with ⟨hframes, hvisit⟩ | ⟨f, fs, b, hframes, -, hvisit⟩
  · intro f hf
    rw [hvisit] at hf
    simp [hframes] at hf
  · have hsize : c.bodies.size ≤ (c.visitAll os).bodies.size := by
      simp [hvisit]
    intro g hg
    rw [WellFormed, hframes, List.forall_mem_cons] at h
    rw [hvisit, List.mem_cons] at hg
    rcases hg with rfl | hg
    · exact Nat.lt_of_lt_of_le h.1 hsize
    · exact Nat.lt_of_lt_of_le (h.2 g hg) hsize

/-- In every state that is `Reached`, the open bodies are among those recorded. -/
theorem Reached.wellFormed {m : ModulePath} {c : Collector} (h : Reached m c) : c.WellFormed := by
  induction h with
  | start =>
    intro f hf
    cases hf
  | visit os h ih => exact ih.visitAll os
  | function name row associated h ih => exact ih.enter _
  | closure row h ih => exact ih.enterClosure row
  | scope name owner h ih => exact ih

/-! ## What a walk leaves as it was -/

variable {c : Collector}

/-- `visitAll` leaves the module path and the owners as they were. -/
private theorem WellFormed.scope_visitAll (h : c.WellFormed) (os : Forest) :
    (c.visitAll os).scope = c.scope ∧ (c.visitAll os).owners = c.owners := by
  rcases visitAll_cases h os with ⟨-, hvisit⟩ | ⟨f, fs, b, -, -, hvisit⟩
  · simp [hvisit]
  · simp [hvisit]

/-- `visitAll` leaves the open bodies as they were, and counts the closures that stand directly in
the innermost one. -/
private theorem WellFormed.frames_visitAll (h : c.WellFormed) (os : Forest) :
    (c.visitAll os).frames = c.frames.modifyHead fun f =>
      { f with closures := f.closures + closuresIn os } := by
  rcases visitAll_cases h os with ⟨hframes, hvisit⟩ | ⟨f, fs, b, hframes, -, hvisit⟩
  · simp [hvisit, hframes]
  · simp [hvisit, hframes]

/-- `visitAll` leaves every recorded body but the innermost open one as it was. -/
private theorem WellFormed.bodies_visitAll (h : c.WellFormed) (os : Forest) {i : Nat} {b : Body}
    (hb : c.bodies.toList[i]? = some b) (hi : ∀ f ∈ c.frames.head?, f.index ≠ i) :
    (c.visitAll os).bodies.toList[i]? = some b := by
  have hlt : i < c.bodies.toList.length := (List.getElem?_eq_some_iff.mp hb).1
  rcases visitAll_cases h os with ⟨-, hvisit⟩ | ⟨f, fs, _, hframes, -, hvisit⟩
  · rw [hvisit]
    exact (List.getElem?_append_left hlt).trans hb
  · have hne : f.index ≠ i := hi f (by simp [hframes])
    rw [hvisit]
    refine (List.getElem?_append_left (by simpa using hlt)).trans ?_
    rw [List.getElem?_modify_ne _ _ hne, hb]

end Collector

/-! ## Files made of items -/

/-- `bodiesOf` two forests are those of the first and then those of the second. -/
theorem bodiesOf_append (m : ModulePath) (os os' : Forest) :
    bodiesOf m (os ++ os') = bodiesOf m os ++ bodiesOf m os' := by
  have hfirst := Collector.visitAll_closed os m [] [] 0
  have hsecond := Collector.visitAll_closed os' m [] (bodiesIn m [] none 0 os) 0
  rw [bodiesOf_eq m os, bodiesOf_eq m os', bodiesOf, Collector.visitAll_append]
  -- The first walk ends outside all bodies, so the second one starts as in a file of its own.
  show (Collector.visitAll (Collector.visitAll ⟨m, [], [], [].toArray⟩ os) os').bodies.toList = _
  rw [hfirst, List.nil_append, hsecond]

/-- `bodiesOf` an inline module are those of its items, in the module that it is. -/
theorem bodiesOf_module (m : ModulePath) (name : Name) (os : Forest) :
    bodiesOf m [.module name os] = bodiesOf (m ++ [name.text]) os := by
  rw [bodiesOf_eq, bodiesOf_eq, bodiesIn, Outline.bodies, bodiesIn, List.append_nil]

/-- **The bodies of a file are found item by item.** In whatever state a walk comes to an item, it
leaves the module path, the owners and the stack of open bodies as they were, except that the
innermost of these goes on counting its closures; and it leaves every body recorded so far as it
was, except for the innermost open one. So outside all bodies an item only adds bodies behind the
others. The bodies of two lists of items are those of the first and then those of the second, and an
inline module has the bodies that its items have in a file of their own; so it is when the tokens
`mod m { … }` are read, also where they are a whole text. A module without items and a function
without a body are read as nodes that a walk passes by. -/
theorem bodiesOf_item_by_item (m : ModulePath) (xs ys : List ItemTree) (name : Name) :
    (∀ c, Collector.Reached m c → ∀ item : ItemTree,
      let d := c.visitAll item.parts
      d.scope = c.scope ∧ d.owners = c.owners ∧
      d.frames = c.frames.modifyHead
        (fun f => { f with closures := f.closures + closuresIn item.parts }) ∧
      (∀ i b, c.bodies.toList[i]? = some b → (∀ f ∈ c.frames.head?, f.index ≠ i) →
        d.bodies.toList[i]? = some b) ∧
      (c.frames = [] → d.frames = c.frames ∧ c.bodies.toList <+: d.bodies.toList)) ∧
    bodiesOf m (outlineOf (xs ++ ys)) = bodiesOf m (outlineOf xs) ++ bodiesOf m (outlineOf ys) ∧
    bodiesOf m [.module name (outlineOf xs)] = bodiesOf (m ++ [name.text]) (outlineOf xs) ∧
    (∀ (k : Nat) (w : Name) (p q o r close stop : Position) (inside : List Token) (joint : Bool),
      w.text = "mod" → name.text ∉ Look.reserved →
      (∀ outline, Grammar.ReadsFile k close inside outline →
        ∃ whole, Grammar.ReadsFile (k + 1) stop
            [.word w p, .word name q, .group .brace o close inside] whole ∧
          bodiesOf m whole = bodiesOf (m ++ [name.text]) outline) ∧
      ∃ whole, Grammar.ReadsFile (k + 1) stop [.word w p, .word name q, .mark ';' joint r] whole ∧
        ∀ c : Collector, c.visitAll whole = c) ∧
    (∀ text ts outline, tokens text = .ok ts →
      Grammar.ReadsFile (8 * Token.countAll ts + 32) .first ts outline →
        ∃ uses, SourceFile.parse text = .ok ⟨outline, uses⟩) ∧
    ∀ (g : Grammar) (attributes : Attributes) (associated required : Bool) (s t : Input)
      (head : Grammar.Signature),
      g.signature false s = .ok (head, t) → Look.mark ";" t.tokens = true →
      ∃ parts, g.functionItem attributes associated required s =
        .ok (parts, { t with tokens := t.tokens.drop 1 }) ∧
        ∀ c : Collector, c.visitAll parts = c := by
  refine ⟨?_, ?_, bodiesOf_module m name _, ?_,
    fun text ts outline => Grammar.ReadsFile.parse_eq_ok, ?_⟩
  · intro c hc item d
    have hwell := hc.wellFormed
    obtain ⟨hscope, howners⟩ := hwell.scope_visitAll item.parts
    refine ⟨hscope, howners, hwell.frames_visitAll item.parts,
      fun i b => hwell.bodies_visitAll item.parts, ?_⟩
    -- Outside all bodies no frame can have been counted in, and bodies are only added.
    intro hclosed
    rcases Collector.visitAll_cases hwell item.parts with ⟨-, hvisit⟩ | ⟨f, fs, b, hopen, -, -⟩
    · have hbodies : d.bodies.toList = c.bodies.toList ++
          bodiesIn c.scope c.owners none 0 item.parts := by
        simp [d, hvisit]
      refine ⟨?_, hbodies ▸ List.prefix_append _ _⟩
      simp [d, hvisit]
    · rw [hclosed] at hopen
      cases hopen
  · rw [outlineOf, List.flatMap_append]
    exact bodiesOf_append m _ _
  · intro k w p q o r close stop inside joint hw hname
    refine ⟨fun outline hread => ?_, ?_⟩
    · exact ⟨_, hread.module hw hname p q o stop, bodiesOf_module m name outline⟩
    · exact ⟨_, Grammar.readsFile_moduleFile k hw hname joint p q r stop, fun c => rfl⟩
  · intro g attributes associated required s t head hhead hend
    refine ⟨_, g.functionItem_without_body attributes associated required hhead hend, fun c => ?_⟩
    cases required <;> rfl

/-- A constant in the body of `f` holds a closure with a function in it, and a block with a method.
To walk over it leaves `f` the innermost open body, with one closure counted, and a second one with
the same item gets the next ordinal. In an inline module the item has the function and the method
only, and a module around nothing is read. -/
theorem bodiesOf_item_by_item_of_closure :
    let f : Name := ⟨"f", by decide, by decide⟩
    let g : Name := ⟨"g", by decide, by decide⟩
    let T : Name := ⟨"T", by decide, by decide⟩
    let w : Name := ⟨"mod", by decide, by decide⟩
    let item : ItemTree :=
      { parts := [.closure 1 [.function g 2 false []], .owner T [.function f 3 true []]] }
    let c := Collector.enterFunction { scope := ["a"] } "f" 0 false
    let d := c.visitAll item.parts
    d.scope = ["a"] ∧ d.owners = [] ∧
      d.frames.map (fun frame => (frame.index, frame.closures)) = [(0, 1)] ∧
      d.bodies.toList.map (·.path) = ["a::f", "a::f$1", "a::g", "a::T::f"] ∧
      (d.visitAll item.parts).bodies.toList.map (·.path) =
        ["a::f", "a::f$1", "a::g", "a::T::f", "a::f$2", "a::g", "a::T::f"] ∧
      (bodiesOf ["a"] [.module g (outlineOf [item])]).map (·.path) = ["a::g::g", "a::g::T::f"] ∧
      ∃ whole, Grammar.ReadsFile 1 .first
          [.word w .first, .word g .first, .group .brace .first .first []] whole ∧
        bodiesOf ["a"] whole = [] := by
  intro f g T w item c d
  have hc : Collector.Reached ["a"] c := .function "f" 0 false .start
  obtain ⟨hitem, -, hmodule, hread, -⟩ := bodiesOf_item_by_item ["a"] [item] [item] g
  obtain ⟨hscope, howners, hframes, -, -⟩ := hitem c hc item
  have hempty : Grammar.ReadsFile 0 .first [] [] := ⟨[], _, rfl, rfl⟩
  refine ⟨hscope, howners, ?_, by decide +kernel, by decide +kernel, ?_, ?_⟩
  · rw [hframes]
    decide +kernel
  · rw [hmodule]
    decide +kernel
  · obtain ⟨whole, hwhole, hbodies⟩ :=
      (hread 0 w .first .first .first .first .first .first [] false rfl (by decide)).1 [] hempty
    exact ⟨whole, hwhole, hbodies⟩

/-- In an open body an item does not leave `frames` exactly as it was: the constant in the body of
`f` holds a closure, which is counted, so the closure after it is the second of `f`. -/
theorem frames_visitAll_ne_of_closure :
    let text := "fn f() \x7b const K: fn() = || \x7b\x7d; let g = || \x7b\x7d; \x7d"
    (∃ (c : Collector) (item : ItemTree), Collector.Reached [] c ∧
      (c.visitAll item.parts).frames ≠ c.frames) ∧
      (SourceUnit.parse "/lib.rs" "lib.rs" text).toOption.map (fun u => u.bodies.map (·.path)) =
        some ["f", "f$1", "f$2"] := by
  let c := Collector.enterFunction { scope := [] } "f" 0 false
  refine ⟨⟨c, { parts := [.closure 0 []] }, ?_, ?_⟩, by decide +kernel⟩
  · exact .function "f" 0 false .start
  · intro h
    have hcount := congrArg (List.map (·.closures)) h
    revert hcount
    decide +kernel

end CallReach.Source
