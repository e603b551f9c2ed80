import CallReach.Source.Unit
import Std.Data.TreeMap

/-!
# Index of functions

Functions are found by any number of their last segments, and functions declared in an `impl` or
`trait` block also by their last segment as methods. Closures are not called by name, so they are
not in the index.
-/

namespace CallReach.Source

/-- Tables from what is called to the paths of the functions that may be meant. -/
structure FunctionIndex where
  byPath : Std.TreeMap String (List String) := {}
  byMethod : Std.TreeMap String (List String) := {}

namespace FunctionIndex

/-- Adds a path to the list of a key. -/
def append (t : Std.TreeMap String (List String)) (key path : String) :
    Std.TreeMap String (List String) :=
  t.insert key ((t[key]?.getD []) ++ [path])

/-- The ends of a list of segments that have at least `least` segments, the shortest first. -/
def endsFrom (least : Nat) : List String → List (List String)
  | [] => []
  | s :: ss => endsFrom least ss ++ if least ≤ ss.length + 1 then [s :: ss] else []

/-- Adds a body. A function of an `impl` or `trait` block is never found by its last segment alone,
except as a method. -/
def add (index : FunctionIndex) (body : Body) : FunctionIndex :=
  if body.closure then index
  else
    let segments := Text.segments body.path
    -- `T::f` may mean an associated function `f`, but `f` alone may not.
    let least := if body.associated then 2 else 1
    let byPath := (endsFrom least segments).foldl
      (fun t ending => append t (Text.joinSegments ending) body.path) index.byPath
    let byMethod :=
      match body.associated, segments.getLast? with
      | true, some name => append index.byMethod name body.path
      | _, _ => index.byMethod
    { byPath, byMethod }

/-- The index of the functions of several files, in order. -/
def build (units : List SourceUnit) : FunctionIndex :=
  (units.flatMap (·.bodies)).foldl add {}

/-- The functions that a path may name. -/
def lookupPath (index : FunctionIndex) (path : String) : List String :=
  index.byPath[path]?.getD []

/-- The functions that a method name may name. -/
def lookupMethod (index : FunctionIndex) (name : String) : List String :=
  index.byMethod[name]?.getD []

/-- The functions that a reference in a file may name. A path is looked up as resolved, and as
written if that gives nothing. -/
def resolve (index : FunctionIndex) (unit : SourceUnit) : Reference → List String
  | .path text =>
    let resolved := Text.joinSegments (unit.imports.resolvePath unit.module text)
    match index.lookupPath resolved with
    | [] => index.lookupPath text
    | found => found
  | .method name => index.lookupMethod name

end FunctionIndex

/-- The program made of the bodies of several files: one function per body, and one call per
function that a reference may name, except for a body that refers to itself. -/
def link (package : String) (units : List SourceUnit) : Program :=
  let index := FunctionIndex.build units
  { functions := units.flatMap fun u => u.bodies.map fun b =>
      { name := packageQualified package b.path, file := u.file, line := b.line }
    calls := units.flatMap fun u => u.bodies.flatMap fun b =>
      b.references.toList.flatMap fun r =>
        ((index.resolve u r).filter (· ≠ b.path)).map fun target =>
          ⟨packageQualified package b.path, packageQualified package target⟩ }

end CallReach.Source
