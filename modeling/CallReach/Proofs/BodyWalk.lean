import CallReach.ForStd.List
import CallReach.Source.Body
import Mathlib.Data.List.Basic

/-!
# What a walk finds

The walk over an outline keeps a stack of open bodies and adds to bodies that it has opened before.
Here its result is said without a stack: `bodiesIn` lists the bodies of a forest from the outside
in, each with what `referencesIn` finds directly in it, and `closuresIn` counts the closures that
are numbered in the body around the forest.

## Key results

- `Forest.induction`: what holds of the parts of a forest holds of the forest
- `visitAll_closed`, `visitAll_open`: the state after a walk, outside all bodies and in a body
- `bodiesOf_eq`: the bodies of a file
-/

namespace CallReach.Source

/-! ## Forests -/

/-- What a walk goes through inside an outline. The head of a required function, the attributes of a
module in another file and the tokens of an invocation without arguments are not looked at. -/
def Outline.inside : Outline → Forest
  | .closure _ inside | .function _ _ _ inside | .owner _ inside | .module _ inside => inside
  | .invocation (some arguments) => arguments
  | .mention _ | .method _ | .requirement .. | .moduleFile .. | .invocation none => []

/-- Induction over forests: into the first outline, and along the others. -/
theorem Forest.induction {motive : Forest → Prop} (nil : motive [])
    (cons : ∀ o os, motive o.inside → motive os → motive (o :: os)) : ∀ os, motive os
  | [] => nil
  | o :: os => cons o os (Forest.induction nil cons o.inside) (Forest.induction nil cons os)
decreasing_by
  · unfold Outline.inside
    split <;> simp <;> omega
  · simp only [List.cons.sizeOf_spec]
    omega

/-- A body with further references. -/
def Body.refer (b : Body) (references : List Reference) : Body :=
  { b with references := references.foldl (fun set r => set.insert r) b.references }

theorem Body.refer_append (b : Body) (rs rs' : List Reference) :
    b.refer (rs ++ rs') = (b.refer rs).refer rs' := by
  rw [Body.refer, List.foldl_append]
  rfl

/-- What closures take over from the body around them. -/
structure Holder where
  path : String
  associated : Bool

/-- The body as holder of closures. -/
def Body.holder (b : Body) : Holder := ⟨b.path, b.associated⟩

/-- The reference that a mention makes: its path with the innermost owner for `Self`, if the path
looks like that of a function. -/
def mentioned? (owners : List String) (path : List Name) : Option Reference :=
  if looksCallable path then
    (Collector.ownedPath? owners (path.map (·.text))).map fun segments =>
      .path (Text.joinSegments segments)
  else none

mutual

/-- The number of closures that are numbered in the body around the outline. -/
def Outline.closures : Outline → Nat
  | .closure .. => 1
  | .owner _ inside | .module _ inside | .invocation (some inside) => closuresIn inside
  | .mention _ | .method _ | .function .. | .requirement .. | .moduleFile .. | .invocation none => 0

/-- The number of closures that are numbered in the body around the forest. -/
def closuresIn : Forest → Nat
  | [] => 0
  | o :: os => o.closures + closuresIn os

end

mutual

/-- The references that belong to the body around the outline, in reading order. -/
def Outline.references (owners : List String) : Outline → List Reference
  | .mention path => (mentioned? owners path).toList
  | .method name => [.method name.text]
  | .owner type inside => referencesIn (type.text :: owners) inside
  | .module _ inside | .invocation (some inside) => referencesIn owners inside
  | .closure .. | .function .. | .requirement .. | .moduleFile .. | .invocation none => []

/-- The references that belong to the body around the forest, in reading order. -/
def referencesIn (owners : List String) : Forest → List Reference
  | [] => []
  | o :: os => o.references owners ++ referencesIn owners os

end

mutual

/-- The bodies in an outline. `holder` is the body around it, and `before` the number of closures
that come before in that body. -/
def Outline.bodies (scope : ModulePath) (owners : List String) (holder : Option Holder)
    (before : Nat) : Outline → List Body
  | .closure row inside =>
    match holder with
    | none => bodiesIn scope owners none 0 inside
    | some h =>
      let body : Body :=
        { path := closureName h.path (before + 1), row, associated := h.associated,
          closure := true }
      body.refer (referencesIn owners inside) :: bodiesIn scope owners (some body.holder) 0 inside
  | .function name row associated inside =>
    let body : Body := { path := scope.qualify name.text, row, associated, closure := false }
    body.refer (referencesIn owners inside) :: bodiesIn scope owners (some body.holder) 0 inside
  | .owner type inside => bodiesIn (scope ++ [type.text]) (type.text :: owners) holder before inside
  | .module name inside => bodiesIn (scope ++ [name.text]) owners holder before inside
  | .invocation (some arguments) => bodiesIn scope owners holder before arguments
  | .mention _ | .method _ | .requirement .. | .moduleFile .. | .invocation none => []

/-- The bodies in a forest, in the order in which they are opened. -/
def bodiesIn (scope : ModulePath) (owners : List String) (holder : Option Holder) (before : Nat) :
    Forest → List Body
  | [] => []
  | o :: os =>
    o.bodies scope owners holder before ++ bodiesIn scope owners holder (before + o.closures) os

end

/-! ## Arguments of invocations -/

mutual

/-- The outline, or its arguments if it is an invocation. -/
def Outline.spread : Outline → Forest
  | .invocation (some arguments) => spreadIn arguments
  | .invocation none => []
  | o => [o]

/-- The forest with the arguments of invocations in the place of these. -/
def spreadIn : Forest → Forest
  | [] => []
  | o :: os => o.spread ++ spreadIn os

end

private theorem closuresIn_append (os os' : Forest) :
    closuresIn (os ++ os') = closuresIn os + closuresIn os' := by
  induction os with
  | nil => simp [closuresIn]
  | cons o os ih => simp [closuresIn, ih, Nat.add_assoc]

private theorem referencesIn_append (owners : List String) (os os' : Forest) :
    referencesIn owners (os ++ os') = referencesIn owners os ++ referencesIn owners os' := by
  induction os with
  | nil => rfl
  | cons o os ih => simp [referencesIn, ih]

private theorem bodiesIn_append (scope : ModulePath) (owners : List String) (holder : Option Holder)
    (before : Nat) (os os' : Forest) :
    bodiesIn scope owners holder before (os ++ os') =
      bodiesIn scope owners holder before os ++
        bodiesIn scope owners holder (before + closuresIn os) os' := by
  induction os generalizing before with
  | nil => simp [bodiesIn, closuresIn]
  | cons o os ih => simp [bodiesIn, closuresIn, ih, Nat.add_assoc]

/-- `spreadIn` changes nothing that a walk finds. -/
theorem bodiesIn_spreadIn (os : Forest) :
    closuresIn (spreadIn os) = closuresIn os ∧
    (∀ owners, referencesIn owners (spreadIn os) = referencesIn owners os) ∧
    ∀ scope owners holder before,
      bodiesIn scope owners holder before (spreadIn os) =
        bodiesIn scope owners holder before os := by
  induction os using Forest.induction with
  | nil => exact ⟨rfl, fun _ => rfl, fun _ _ _ _ => rfl⟩
  | cons o os hinside hos =>
    obtain ⟨hclosures, hreferences, hbodies⟩ := hos
    -- The first outline spreads to itself, unless it is an invocation.
    have ho : closuresIn o.spread = o.closures ∧
        (∀ owners, referencesIn owners o.spread = o.references owners) ∧
        ∀ scope owners holder before,
          bodiesIn scope owners holder before o.spread = o.bodies scope owners holder before := by
      cases o with
      | invocation arguments =>
        cases arguments with
        | some arguments => exact hinside
        | none => exact ⟨rfl, fun _ => rfl, fun _ _ _ _ => rfl⟩
      | _ => simp [Outline.spread, closuresIn, referencesIn, bodiesIn]
    refine ⟨?_, ?_, ?_⟩
    · rw [spreadIn, closuresIn_append, ho.1, hclosures, closuresIn]
    · intro owners
      rw [spreadIn, referencesIn_append, ho.2.1, hreferences, referencesIn]
    · intro scope owners holder before
      rw [spreadIn, bodiesIn_append, ho.2.2, ho.1, hbodies, bodiesIn]

/-! ## The walk -/

namespace Collector

/-- The state after `visitAll` in an open body: `referencesIn` belong to that body, `closuresIn` are
counted in it, and `bodiesIn` come behind the others. -/
def WalksOpen (os : Forest) : Prop :=
  ∀ (scope : ModulePath) (owners : List String) (frames : List Frame) (bodies : List Body)
    (i k : Nat) (b : Body), bodies[i]? = some b →
    visitAll ⟨scope, owners, ⟨i, k⟩ :: frames, bodies.toArray⟩ os =
      ⟨scope, owners, ⟨i, k + closuresIn os⟩ :: frames,
        (bodies.modify i (·.refer (referencesIn owners os)) ++
          bodiesIn scope owners (some b.holder) k os).toArray⟩

variable {scope : ModulePath} {owners : List String} {frames : List Frame} {bodies : List Body}

/-- `visitAll` goes through a forest from left to right. -/
theorem visitAll_append (c : Collector) (os os' : Forest) :
    c.visitAll (os ++ os') = (c.visitAll os).visitAll os' := by
  induction os generalizing c with
  | nil => rfl
  | cons o os ih => exact ih (c.visit o)

private theorem modify_refer_nil (bodies : List Body) (i : Nat) :
    bodies.modify i (·.refer []) = bodies :=
  List.modify_id i bodies

/-- `leaveScope` undoes `enterScope`, whatever has become of the bodies in between. -/
private theorem leaveScope_enterScope (c : Collector) (name : String) (owner : Bool)
    (frames : List Frame) (bodies : Array Body) :
    leaveScope { c.enterScope name owner with frames, bodies } owner =
      { c with frames, bodies } := by
  cases owner <;> simp [enterScope, leaveScope]

private theorem record_open (i k : Nat) (r : Reference) :
    record ⟨scope, owners, ⟨i, k⟩ :: frames, bodies.toArray⟩ r =
      ⟨scope, owners, ⟨i, k⟩ :: frames, (bodies.modify i (·.refer [r])).toArray⟩ := by
  simp [record, Body.refer]

/-- `enter`, a walk over what is inside, and `leave`: the frame that was pushed is the one that is
popped, since the walk gives the frames back. -/
private theorem leave_visitAll_enter {inside : Forest} (hinside : WalksOpen inside) (body : Body) :
    (visitAll (enter ⟨scope, owners, frames, bodies.toArray⟩ body) inside).leave =
      ⟨scope, owners, frames, (bodies ++ (body.refer (referencesIn owners inside) ::
        bodiesIn scope owners (some body.holder) 0 inside)).toArray⟩ := by
  have hget : (bodies ++ [body])[bodies.length]? = some body := by simp
  have henter : enter ⟨scope, owners, frames, bodies.toArray⟩ body =
      ⟨scope, owners, ⟨bodies.length, 0⟩ :: frames, (bodies ++ [body]).toArray⟩ := by
    simp [enter]
  rw [henter, hinside _ _ _ _ _ _ _ hget, List.modify_append_length, List.append_assoc]
  rfl

/-- `visit` in an open body. The stacks come back because every branch closes what it has opened. -/
private theorem visit_open (o : Outline) (hinside : WalksOpen o.inside) {i k : Nat} {b : Body}
    (hb : bodies[i]? = some b) :
    visit ⟨scope, owners, ⟨i, k⟩ :: frames, bodies.toArray⟩ o =
      ⟨scope, owners, ⟨i, k + o.closures⟩ :: frames,
        (bodies.modify i (·.refer (o.references owners)) ++
          o.bodies scope owners (some b.holder) k).toArray⟩ := by
  -- The outlines that are passed over record nothing and open nothing.
  have hnothing : bodies = bodies.modify i (·.refer []) ++ [] := by
    rw [modify_refer_nil, List.append_nil]
  cases o with
  | mention path =>
    simp only [visit, recordPath, Outline.references, mentioned?, Outline.bodies, List.append_nil]
    split
    · cases ownedPath? owners (path.map (·.text)) with
      | none => simp [modify_refer_nil, Outline.closures]
      | some segments => simp [record_open, Outline.closures]
    · simp [modify_refer_nil, Outline.closures]
  | method name =>
    simp [visit, record_open, Outline.references, Outline.bodies, Outline.closures]
  | closure row inside =>
    have henter : enterClosure ⟨scope, owners, ⟨i, k⟩ :: frames, bodies.toArray⟩ row =
        enter ⟨scope, owners, ⟨i, k + 1⟩ :: frames, bodies.toArray⟩
          { path := closureName b.path (k + 1), row, associated := b.associated,
            closure := true } := by
      simp [enterClosure, hb]
    simp only [visit, List.isEmpty_cons, Bool.false_eq_true, if_false]
    change WalksOpen inside at hinside
    -- The closure is counted in the frame of the body around it before its own frame is pushed.
    rw [henter, leave_visitAll_enter hinside]
    simp [Outline.references, Outline.bodies, Outline.closures, modify_refer_nil, Body.holder]
  | function name row associated inside =>
    simp only [visit, enterFunction]
    change WalksOpen inside at hinside
    rw [leave_visitAll_enter hinside]
    simp [Outline.references, Outline.bodies, Outline.closures, modify_refer_nil]
  | owner type inside =>
    have hwalk := hinside (scope ++ [type.text]) (type.text :: owners) frames bodies i k b hb
    refine (congrArg (leaveScope · true) hwalk).trans ?_
    exact leaveScope_enterScope ⟨scope, owners, ⟨i, k⟩ :: frames, bodies.toArray⟩ type.text true _ _
  | module name inside =>
    have hwalk := hinside (scope ++ [name.text]) owners frames bodies i k b hb
    refine (congrArg (leaveScope · false) hwalk).trans ?_
    exact leaveScope_enterScope ⟨scope, owners, ⟨i, k⟩ :: frames, bodies.toArray⟩
      name.text false _ _
  | invocation arguments =>
    cases arguments with
    | some arguments => exact hinside scope owners frames bodies i k b hb
    | none => exact congrArg (fun bs => Collector.mk _ _ _ (List.toArray bs)) hnothing
  | requirement | moduleFile =>
    exact congrArg (fun bs => Collector.mk _ _ _ (List.toArray bs)) hnothing

/-- `visitAll` in an open body, by induction over the forest. -/
theorem visitAll_open (os : Forest) : WalksOpen os := by
  induction os using Forest.induction with
  | nil =>
    intro scope owners frames bodies i k b _
    simp [visitAll, referencesIn, bodiesIn, closuresIn, modify_refer_nil]
  | cons o os hinside hos =>
    intro scope owners frames bodies i k b hb
    have hlt : i < (bodies.modify i (·.refer (o.references owners))).length := by
      rw [List.length_modify]
      exact (List.getElem?_eq_some_iff.mp hb).1
    -- The body stays where it is, and closures see no difference in it.
    have hb' : (bodies.modify i (·.refer (o.references owners)) ++
        o.bodies scope owners (some b.holder) k)[i]? = some (b.refer (o.references owners)) := by
      rw [List.getElem?_append_left hlt]
      simp [hb]
    have hrefer : ((fun b => Body.refer b (referencesIn owners os)) ∘
        fun b => Body.refer b (o.references owners)) =
          fun b => Body.refer b (o.references owners ++ referencesIn owners os) := by
      funext b
      exact (b.refer_append _ _).symm
    rw [visitAll, visit_open o hinside hb, hos _ _ _ _ _ _ _ hb', List.modify_append_of_lt hlt,
      List.modify_modify_eq, hrefer]
    simp only [closuresIn, referencesIn, bodiesIn, Nat.add_assoc, List.append_assoc]
    rfl

/-- `visitAll` outside all bodies. -/
theorem visitAll_closed (os : Forest) (scope : ModulePath) (owners : List String)
    (bodies : List Body) (before : Nat) :
    visitAll ⟨scope, owners, [], bodies.toArray⟩ os =
      ⟨scope, owners, [], (bodies ++ bodiesIn scope owners none before os).toArray⟩ := by
  induction os using Forest.induction generalizing scope owners bodies before with
  | nil => simp [visitAll, bodiesIn]
  | cons o os hinside hos =>
    have hvisit : visit ⟨scope, owners, [], bodies.toArray⟩ o =
        ⟨scope, owners, [], (bodies ++ o.bodies scope owners none before).toArray⟩ := by
      cases o with
      | mention path =>
        simp only [visit, recordPath, Outline.bodies, List.append_nil]
        split
        · split <;> rfl
        · rfl
      | method name => simp [visit, record, Outline.bodies]
      -- A closure opens no body here, and the closures in it are counted nowhere.
      | closure row inside => exact hinside scope owners bodies 0
      | function name row associated inside =>
        simp only [visit, enterFunction]
        rw [leave_visitAll_enter (visitAll_open inside)]
        simp [Outline.bodies]
      | owner type inside =>
        have hwalk := hinside (scope ++ [type.text]) (type.text :: owners) bodies before
        refine (congrArg (leaveScope · true) hwalk).trans ?_
        exact leaveScope_enterScope ⟨scope, owners, [], bodies.toArray⟩ type.text true _ _
      | module name inside =>
        have hwalk := hinside (scope ++ [name.text]) owners bodies before
        refine (congrArg (leaveScope · false) hwalk).trans ?_
        exact leaveScope_enterScope ⟨scope, owners, [], bodies.toArray⟩ name.text false _ _
      | invocation arguments =>
        cases arguments with
        | some arguments => exact hinside scope owners bodies before
        | none => simp [visit, Outline.bodies]
      | requirement | moduleFile => simp [visit, Outline.bodies]
    rw [visitAll, hvisit, hos _ _ _ (before + o.closures), bodiesIn, List.append_assoc]

end Collector

/-- `bodiesOf` are the `bodiesIn` of the outline. -/
theorem bodiesOf_eq (m : ModulePath) (outline : Forest) :
    bodiesOf m outline = bodiesIn m [] none 0 outline := by
  have hwalk := Collector.visitAll_closed outline m [] [] 0
  rw [List.nil_append] at hwalk
  rw [bodiesOf]
  show (Collector.visitAll ⟨m, [], [], [].toArray⟩ outline).bodies.toList = _
  rw [hwalk]

end CallReach.Source
