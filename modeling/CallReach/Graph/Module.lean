import CallReach.Program
import CallReach.Settings.Basic
import Std.Data.TreeMap
import Std.Data.TreeMap.Lemmas
import Std.Data.TreeSet
import Std.Data.TreeSet.Lemmas

/-!
# Modules

The part of a program that an analysis looks at: the functions of one module whose declarations are
known and are not generated, and the calls between them.
-/

namespace CallReach

/-- What becomes of a function of the program. -/
inductive Retention where
  | retained
  | unresolved
  | outsideModule
  | generated
  deriving DecidableEq, Repr

/-- Decides what becomes of a function: its place must be known, its name must contain the
identifier of the module, and its file must not be generated. -/
def Function.retention (c : Settings) (f : Function) : Retention :=
  if !f.hasPosition then .unresolved
  else if !Text.contains f.name c.module then .outsideModule
  else if c.isGenerated f.file then .generated
  else .retained

/-- What was found in a program, by number. -/
structure FilterCounts where
  totalFunctions : Nat := 0
  retainedFunctions : Nat := 0
  unresolved : Nat := 0
  outsideModule : Nat := 0
  generated : Nat := 0
  duplicates : Nat := 0
  totalCalls : Nat := 0
  retainedCalls : Nat := 0
  deriving DecidableEq, Repr

/-- The order of calls: by caller, then by callee. -/
def Call.order : Call → Call → Ordering :=
  compareLex (compareOn Call.caller) (compareOn Call.callee)

instance : Std.TransCmp Call.order := inferInstanceAs (Std.TransCmp (compareLex _ _))

instance : Std.LawfulEqCmp Call.order where
  eq_of_compare {a b} h := by
    obtain ⟨caller, callee⟩ := a
    obtain ⟨caller', callee'⟩ := b
    simp only [Call.order, compareLex, compareOn, Ordering.then_eq_eq,
      Std.LawfulEqOrd.compare_eq_iff_eq] at h
    rw [h.1, h.2]

/-- The functions of a module by name, and the calls between them. -/
structure Module where
  nodes : Std.TreeMap String Function := ∅
  calls : Std.TreeSet Call Call.order := ∅

namespace Module

/-- The function with a name. -/
def find? (m : Module) (name : String) : Option Function := m.nodes[name]?

/-- Whether the module has a function with a name. -/
def contains (m : Module) (name : String) : Bool := m.nodes.contains name

end Module

/-- A restriction under way: the module so far, and what has been counted. -/
structure Filtering where
  module : Module := {}
  counts : FilterCounts := {}

namespace Filtering

/-- Takes the next function of the program. The first of those that share a name is kept. -/
def addFunction (c : Settings) (s : Filtering) (f : Function) : Filtering :=
  match f.retention c with
  | .retained =>
    if s.module.contains f.name then { s with counts.duplicates := s.counts.duplicates + 1 }
    else { s with module.nodes := s.module.nodes.insert f.name f }
  | .unresolved => { s with counts.unresolved := s.counts.unresolved + 1 }
  | .outsideModule => { s with counts.outsideModule := s.counts.outsideModule + 1 }
  | .generated => { s with counts.generated := s.counts.generated + 1 }

/-- Takes the next call of the program. It is kept if both of its ends are. -/
def addCall (s : Filtering) (e : Call) : Filtering :=
  if s.module.contains e.caller && s.module.contains e.callee then
    { s with module.calls := s.module.calls.insert e }
  else s

/-- Takes all functions of a program, then all of its calls. -/
def ofProgram (c : Settings) (p : Program) : Filtering :=
  let start : Filtering :=
    { counts := { totalFunctions := p.functions.length, totalCalls := p.calls.length } }
  let s := p.calls.foldl addCall (p.functions.foldl (addFunction c) start)
  { s with
    counts.retainedFunctions := s.module.nodes.size
    counts.retainedCalls := s.module.calls.size }

end Filtering

namespace Module

/-- The module that the settings name, in a program. -/
def ofProgram (c : Settings) (p : Program) : Module := (Filtering.ofProgram c p).module

/-- What was found in a program. -/
def counts (c : Settings) (p : Program) : FilterCounts := (Filtering.ofProgram c p).counts

end Module

end CallReach
