import CallReach.Source.Grammar.File

/-!
# What the readers of items return

The walk over an outline passes by a module without items and a function without a body, so these
have to be in the outline as what they are. Here are the outcomes of their readers. An inline module
is read as a file is: `itemForm_module` says that `mod m { … }` holds exactly what `file` finds in
the braces.
-/

namespace CallReach.Source

private theorem Reader.bind_of_ok {α β : Type} {r : Reader α} {f : α → Reader β} {s t : Input}
    {a : α} (h : r s = .ok (a, t)) : (r >>= f) s = f a t := by
  show Except.bind (r s) _ = _
  rw [h]
  rfl

private theorem Reader.bind_of_error {α β : Type} {r : Reader α} {f : α → Reader β} {s : Input}
    {e : Position} (h : r s = .error e) : (r >>= f) s = .error e := by
  show Except.bind (r s) _ = _
  rw [h]
  rfl

namespace Grammar

open Reader

/-- The grammar in which forms nest at most `k` levels deep. -/
def upTo (k : Nat) : Grammar := ⟨readUpTo k⟩

/-! ## Attributes and names -/

private theorem manyUntil_done {α : Type} {done : Look} {item : Reader α} {s : Input}
    (h : done s.tokens = true) : manyUntil done item s = .ok ([], s) := by
  have hlook : look done s = .ok (true, s) := by
    show Except.ok _ = _
    rw [h]
  rw [manyUntil, repeating, bind_of_ok (a := s) (t := s) rfl, repeatUpTo]
  rw [bind_of_ok (a := none) (t := s)]
  · rfl
  · rw [bind_of_ok hlook]
    rfl

private theorem outerAttributes_absent (g : Grammar) {s : Input}
    (h : Look.mark "#" s.tokens = false) :
    outerAttributes g s = .ok ({}, s) := by
  rw [outerAttributes, bind_of_ok (manyUntil_done (by simp [h]))]
  rfl

private theorem innerAttributes_absent (g : Grammar) {s : Input}
    (h : Look.mark "#" s.tokens = false) :
    innerAttributes g s = .ok ({}, s) := by
  rw [innerAttributes, bind_of_ok (manyUntil_done (by simp [h]))]
  rfl

private theorem identifier_of_not_reserved {name : Name} (hname : name.text ∉ Look.reserved)
    (q stop : Position) (rest : List Token) (stray : Option Position) :
    identifier ⟨.word name q :: rest, stop, stray⟩ = .ok (name, ⟨rest, stop, stray⟩) := by
  have hlook : look .identifier ⟨.word name q :: rest, stop, stray⟩ =
      .ok (true, ⟨.word name q :: rest, stop, stray⟩) := by
    show Except.ok (Look.identifier (.word name q :: rest), _) = _
    simp [Look.identifier, hname]
  rw [identifier, bind_of_ok hlook]
  rfl

/-! ## Repeated readers -/

/-- The outcome of a reader with its result changed. -/
private def outcomeMap {α β : Type} (f : α → β) (r : Except Position (α × Input)) :
    Except Position (β × Input) :=
  r.map fun (a, t) => (f a, t)

/-- If the steps of two repetitions differ by `f` in what they return, so do the repetitions. The
two fail at the same places and go on after the same items. -/
private theorem repeatUpTo_map {α β : Type} (f : α → β) {step : Reader (Option (α × Bool))}
    {step' : Reader (Option (β × Bool))}
    (hstep : ∀ s, step' s = outcomeMap (Option.map (Prod.map f id)) (step s)) (n : Nat)
    (s : Input) :
    repeatUpTo step' n s = outcomeMap (List.map f) (repeatUpTo step n s) := by
  -- By induction on the number of rounds that are left.
  induction n generalizing s with
  | zero => rfl
  | succ n ih =>
    rw [repeatUpTo, repeatUpTo]
    cases hs : step s with
    | error e =>
      have hs' : step' s = .error e := by rw [hstep, hs]; rfl
      rw [bind_of_error hs, bind_of_error hs']
      rfl
    | ok result =>
      obtain ⟨found, t⟩ := result
      have hs' : step' s = .ok (found.map (Prod.map f id), t) := by rw [hstep, hs]; rfl
      rw [bind_of_ok hs, bind_of_ok hs']
      -- The repetition ends with nothing, ends with this item, or goes on after it.
      rcases found with - | ⟨a, - | -⟩
      · rfl
      · rfl
      · show (repeatUpTo step' n >>= _) t = outcomeMap _ ((repeatUpTo step n >>= _) t)
        cases hrest : repeatUpTo step n t with
        | error e =>
          have hrest' : repeatUpTo step' n t = .error e := by rw [ih, hrest]; rfl
          rw [bind_of_error hrest, bind_of_error hrest']
          rfl
        | ok result =>
          have hrest' : repeatUpTo step' n t = .ok (result.1.map f, result.2) := by
            rw [ih, hrest]; rfl
          rw [bind_of_ok hrest, bind_of_ok hrest']
          rfl

/-- `manyUntil` with `f` on each item is `manyUntil` with `f` on the list. -/
private theorem manyUntil_map {α β : Type} (f : α → β) (done : Look) (item : Reader α) (s : Input) :
    manyUntil done (do return f (← item)) s = outcomeMap (List.map f) (manyUntil done item s) := by
  refine repeatUpTo_map f (fun s => ?_) (s.tokens.length + 1) s
  -- One round of each: they look for the end first, and then read an item or fail on it.
  have hlook : look done s = .ok (done s.tokens, s) := rfl
  rw [bind_of_ok hlook, bind_of_ok hlook]
  cases done s.tokens with
  | true => rfl
  | false =>
    show ((item >>= fun a => pure (f a)) >>= _) s = outcomeMap _ ((item >>= _) s)
    cases hs : item s with
    | error e =>
      have hs' : (item >>= fun a => pure (f a)) s = .error e := bind_of_error hs
      rw [bind_of_error hs, bind_of_error hs']
      rfl
    | ok result =>
      have hs' : (item >>= fun a => pure (f a)) s = .ok (f result.1, result.2) := bind_of_ok hs
      rw [bind_of_ok hs, bind_of_ok hs']
      rfl

/-! ## Modules -/

/-- The place of the first token that is left over when a group has been read to this state. -/
def strayAfter (left : Input) : Option Position :=
  left.stray.orElse fun _ => left.tokens.head?.map Token.pos

private theorem inGroup_group {α : Type} (b : Bracket) (r : Reader α) (o close stop : Position)
    (inside rest : List Token) (stray : Option Position) :
    inGroup b r ⟨.group b o close inside :: rest, stop, stray⟩ =
      match r ⟨inside, close, stray⟩ with
      | .error e => .error e
      | .ok (a, left) => .ok (a, ⟨rest, stop, strayAfter left⟩) := by
  rw [inGroup]
  exact if_pos rfl

/-- `bodyOf` reads the items in braces as `file` reads those of a file. -/
private theorem bodyOf_items (g : Grammar) (name : Name) (o close stop : Position)
    (inside rest : List Token) (stray : Option Position) :
    (do
      let (inner, items) ← bodyOf g do return (← g.read .item).parts
      return [.module name (inner.parts ++ items)] : Reader Forest)
      ⟨.group .brace o close inside :: rest, stop, stray⟩ =
      match g.file ⟨inside, close, stray⟩ with
      | .error e => .error e
      | .ok ((outline, _), left) =>
        .ok ([.module name outline], ⟨rest, stop, strayAfter left⟩) := by
  cases hinner : innerAttributes g ⟨inside, close, stray⟩ with
  | error e =>
    have hbody : bodyOf g (do return (← g.read .item).parts)
        ⟨.group .brace o close inside :: rest, stop, stray⟩ = .error e := by
      rw [bodyOf, inGroup_group, bind_of_error hinner]
    rw [bind_of_error hbody, file, bind_of_error hinner]
  | ok result =>
    obtain ⟨attributes, s⟩ := result
    -- `bodyOf` collects the parts of the items, `file` the items.
    have hmap := manyUntil_map ItemTree.parts .none (g.read .item) s
    cases hitems : manyUntil .none (g.read .item) s with
    | error e =>
      rw [hitems] at hmap
      have hbody : bodyOf g (do return (← g.read .item).parts)
          ⟨.group .brace o close inside :: rest, stop, stray⟩ = .error e := by
        rw [bodyOf, inGroup_group, bind_of_ok hinner, bind_of_error hmap]
      rw [bind_of_error hbody, file, bind_of_ok hinner, bind_of_error hitems]
    | ok result =>
      obtain ⟨items, left⟩ := result
      rw [hitems] at hmap
      have hbody : bodyOf g (do return (← g.read .item).parts)
          ⟨.group .brace o close inside :: rest, stop, stray⟩ =
          .ok ((attributes, items.flatMap (·.parts)), ⟨rest, stop, strayAfter left⟩) := by
        rw [bodyOf, inGroup_group, bind_of_ok hinner, bind_of_ok hmap]
        rfl
      rw [bind_of_ok hbody, file, bind_of_ok hinner, bind_of_ok hitems]
      rfl

section Module

variable (g : Grammar) {w name : Name} (p q stop : Position) (rest : List Token)
  (stray : Option Position)

/-- After `mod m`, `moduleItem` takes a semicolon or the items in braces. -/
private theorem moduleItem_mod (hw : w.text = "mod") (hname : name.text ∉ Look.reserved) :
    moduleItem g {} ⟨.word w p :: .word name q :: rest, stop, stray⟩ =
      (do
        if ← mark? ";" then return [.moduleFile name []]
        let (inner, items) ← bodyOf g do return (← g.read .item).parts
        return [.module name (inner.parts ++ items)] : Reader Forest) ⟨rest, stop, stray⟩ := by
  obtain ⟨text, hunmarked, hundivided⟩ := w
  subst hw
  -- Of the reserved words only `try` may name a module, and is read in another way.
  have htry : look (.word "try") ⟨.word name q :: rest, stop, stray⟩ =
      .ok (false, ⟨.word name q :: rest, stop, stray⟩) := by
    have hne : name.text ≠ "try" := fun h => hname (h ▸ by decide)
    show Except.ok (Look.word "try" (.word name q :: rest), _) = _
    simp [Look.word, hne]
  rw [moduleItem, bind_of_ok (a := false) rfl,
    bind_of_ok (a := ()) (t := ⟨.word name q :: rest, stop, stray⟩) rfl, bind_of_ok htry]
  show (identifier >>= _) _ = _
  rw [bind_of_ok (identifier_of_not_reserved hname q stop rest stray)]
  rfl

/-- `itemForm` leaves an item that starts with `mod` to `moduleItem`. -/
private theorem itemForm_mod (hw : w.text = "mod") :
    itemForm g ⟨.word w p :: rest, stop, stray⟩ =
      (moduleItem g {} >>= fun parts => pure { parts } : Reader ItemTree)
        ⟨.word w p :: rest, stop, stray⟩ := by
  obtain ⟨text, hunmarked, hundivided⟩ := w
  subst hw
  rw [itemForm, bind_of_ok (outerAttributes_absent g rfl)]
  rfl

/-- `itemForm` gives a module with its items in another file a node for itself only. -/
private theorem itemForm_moduleFile (hw : w.text = "mod") (hname : name.text ∉ Look.reserved)
    (joint : Bool) (r : Position) :
    itemForm g ⟨.word w p :: .word name q :: .mark ';' joint r :: rest, stop, stray⟩ =
      .ok ({ parts := [.moduleFile name []] }, ⟨rest, stop, stray⟩) := by
  have hmodule : moduleItem g {}
      ⟨.word w p :: .word name q :: .mark ';' joint r :: rest, stop, stray⟩ =
      .ok ([.moduleFile name []], ⟨rest, stop, stray⟩) := by
    rw [moduleItem_mod g p q stop _ stray hw hname]
    rfl
  rw [itemForm_mod g p stop _ stray hw, bind_of_ok hmodule]
  rfl

/-- `itemForm` reads an inline module as `file` reads a file, and the module holds what is found
there. -/
theorem itemForm_module (hw : w.text = "mod") (hname : name.text ∉ Look.reserved)
    (o close : Position) (inside : List Token) :
    itemForm g ⟨.word w p :: .word name q :: .group .brace o close inside :: rest, stop, stray⟩ =
      match g.file ⟨inside, close, stray⟩ with
      | .error e => .error e
      | .ok ((outline, _), left) =>
        .ok ({ parts := [.module name outline] }, ⟨rest, stop, strayAfter left⟩) := by
  have hmodule :=
    (moduleItem_mod g p q stop (.group .brace o close inside :: rest) stray hw hname).trans
      (bodyOf_items g name o close stop inside rest stray)
  rw [itemForm_mod g p stop _ stray hw]
  cases hfile : g.file ⟨inside, close, stray⟩ with
  | error e =>
    rw [hfile] at hmodule
    rw [bind_of_error hmodule]
  | ok result =>
    rw [hfile] at hmodule
    rw [bind_of_ok hmodule]
    rfl

end Module

/-- `file` gives for one item what the item holds. -/
private theorem file_single {k : Nat} {s t : Input} {item : ItemTree}
    (hfront : Look.mark "#" s.tokens = false) (hsome : s.tokens ≠ [])
    (hitem : itemForm (upTo k) s = .ok (item, t)) (hend : t.tokens = []) :
    (upTo (k + 1)).file s = .ok ((item.parts, item.tree.toList), t) := by
  have hread : (upTo (k + 1)).read .item = itemForm (upTo k) := rfl
  have hfirst : look .none s = .ok (false, s) := by
    show Except.ok (s.tokens.isEmpty, s) = _
    rw [List.isEmpty_eq_false_iff.mpr hsome]
  have hlast : look .none t = .ok (true, t) := by
    show Except.ok (t.tokens.isEmpty, t) = _
    rw [hend, List.isEmpty_nil]
  -- The repetition takes the item in its first round and finds no tokens in its second one.
  have hitems : manyUntil .none (itemForm (upTo k)) s = .ok ([item], t) := by
    obtain ⟨n, hn⟩ : ∃ n, s.tokens.length = n + 1 :=
      Nat.exists_eq_succ_of_ne_zero (by simpa using hsome)
    rw [manyUntil, repeating, bind_of_ok (a := s) (t := s) rfl, hn, repeatUpTo,
      bind_of_ok (a := some (item, true)) (t := t)]
    · show (repeatUpTo _ (n + 1) >>= _) t = _
      rw [repeatUpTo, bind_of_ok (a := []) (t := t)]
      · rfl
      · rw [bind_of_ok (a := none) (t := t)]
        · rfl
        · rw [bind_of_ok hlast]
          rfl
    · rw [bind_of_ok hfirst]
      show (itemForm (upTo k) >>= _) s = _
      rw [bind_of_ok hitem]
      rfl
  rw [file, bind_of_ok (innerAttributes_absent _ hfront), hread, bind_of_ok hitems]
  show Except.ok (([item].flatMap (·.parts), [item].filterMap (·.tree)), t) = _
  cases htree : item.tree <;> simp [htree]

/-- The tokens are those of a file with the outline, and none of them is left over. -/
def ReadsFile (k : Nat) (stop : Position) (tokens : List Token) (outline : Forest) : Prop :=
  ∃ uses left, (upTo k).file ⟨tokens, stop, none⟩ = .ok ((outline, uses), left) ∧
    strayAfter left = none

/-- `ReadsFile` for `mod m { … }`, from `ReadsFile` for what is in the braces, one level deeper. -/
theorem ReadsFile.module {k : Nat} {w name : Name} {close : Position} {inside : List Token}
    {outline : Forest} (h : ReadsFile k close inside outline) (hw : w.text = "mod")
    (hname : name.text ∉ Look.reserved) (p q o stop : Position) :
    ReadsFile (k + 1) stop [.word w p, .word name q, .group .brace o close inside]
      [.module name outline] := by
  obtain ⟨uses, left, hfile, hleft⟩ := h
  have hitem := itemForm_module (upTo k) p q stop [] none hw hname o close inside
  rw [hfile] at hitem
  refine ⟨_, _, file_single rfl (List.cons_ne_nil _ _) hitem rfl, ?_⟩
  rw [hleft]
  rfl

/-- `ReadsFile` for `mod m;`. -/
theorem readsFile_moduleFile (k : Nat) {w name : Name} (hw : w.text = "mod")
    (hname : name.text ∉ Look.reserved) (joint : Bool) (p q r stop : Position) :
    ReadsFile (k + 1) stop [.word w p, .word name q, .mark ';' joint r] [.moduleFile name []] := by
  have hitem := itemForm_moduleFile (upTo k) p q stop [] none hw hname joint r
  exact ⟨_, _, file_single rfl (List.cons_ne_nil _ _) hitem rfl, rfl⟩

/-- `SourceFile.parse` reads a text as `ReadsFile` says, with the depth that its tokens allow. -/
theorem ReadsFile.parse_eq_ok {text : String} {ts : List Token} {outline : Forest}
    (htokens : tokens text = .ok ts)
    (h : ReadsFile (8 * Token.countAll ts + 32) .first ts outline) :
    ∃ uses, SourceFile.parse text = .ok ⟨outline, uses⟩ := by
  obtain ⟨uses, left, hfile, hleft⟩ := h
  have hstray : left.stray = none := by
    rw [strayAfter] at hleft
    cases hstray : left.stray with
    | none => rfl
    | some position =>
      rw [hstray] at hleft
      cases hleft
  refine ⟨uses, ?_⟩
  have hread : (forTokens (Token.countAll ts)).file.run { tokens := ts, stop := .first } =
      .ok ((outline, uses), left) := hfile
  simp only [SourceFile.parse, htokens, hread, bind, Except.bind, hstray, pure, Except.pure]

/-! ## Functions without a body -/

/-- `functionItem` reads a function that ends in a semicolon as a requirement of its trait, and as
nothing elsewhere. -/
theorem functionItem_without_body (g : Grammar) (attributes : Attributes)
    (associated required : Bool) {s t : Input} {head : Signature}
    (hhead : signature g false s = .ok (head, t)) (hend : Look.mark ";" t.tokens = true) :
    functionItem g attributes associated required s =
      .ok (if required then [.requirement head.name head.row (attributes.parts ++ head.parts)]
          else [], { t with tokens := t.tokens.drop 1 }) := by
  have hmark : mark? ";" t = .ok (true, { t with tokens := t.tokens.drop 1 }) := by
    have hlook : look (.mark ";") t = .ok (true, t) := by
      show Except.ok _ = _
      rw [hend]
    rw [mark?, bind_of_ok hlook]
    rfl
  rw [functionItem, bind_of_ok hhead, bind_of_ok hmark]
  rfl

end Grammar

end CallReach.Source
