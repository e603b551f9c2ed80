import CallReach.Program
import CallReach.Source.Outline
import CallReach.Source.Scope
import CallReach.Text.Lowercase
import Std.Data.TreeSet

/-!
# Bodies

The bodies of a source file, of functions and of closures, each with what it refers to. A walk over
the outline of the file opens and closes bodies; what is mentioned belongs to the innermost open
one, and the closures directly in a body are numbered from 1.
-/

namespace CallReach.Source

/-- What a body refers to: a path as written, or a method by its name. Paths come before methods in
the order of references. -/
inductive Reference where
  | path (text : String)
  | method (name : String)
  deriving DecidableEq, Ord, Repr

/-- The body of a function or closure. -/
structure Body where
  /-- The qualified name without the name of the package. -/
  path : String
  row : Nat
  /-- Whether it belongs to a function declared in an `impl` or `trait` block. -/
  associated : Bool
  closure : Bool
  references : Std.TreeSet Reference := {}

/-- The line on which the body starts. -/
def Body.line (b : Body) : Nat := b.row + 1

/-- A body that is still open: its place in the list of bodies, and the number of closures in it so
far. -/
structure Frame where
  index : Nat
  closures : Nat := 0

/-- The state of the walk. The innermost owner and the innermost open body come first. -/
structure Collector where
  scope : ModulePath
  owners : List String := []
  frames : List Frame := []
  bodies : Array Body := #[]

/-- Whether a path looks like that of a function: its last segment starts with a lower-case letter
or an underscore. -/
def looksCallable (path : List Name) : Bool :=
  match path.getLast? with
  | none => false
  | some n =>
    match n.text.toList.head? with
    | none => false
    | some c => Text.isLowercase c || c = '_'

namespace Collector

/-- Opens a body. -/
def enter (c : Collector) (body : Body) : Collector :=
  { c with
    frames := { index := c.bodies.size } :: c.frames
    bodies := c.bodies.push body }

/-- Opens the body of a function. -/
def enterFunction (c : Collector) (name : String) (row : Nat) (associated : Bool) : Collector :=
  c.enter { path := c.scope.qualify name, row, associated, closure := false }

/-- Opens the next closure of the innermost body; outside all bodies nothing is opened. -/
def enterClosure (c : Collector) (row : Nat) : Collector :=
  match c.frames with
  | [] => c
  | frame :: frames =>
    let ordinal := frame.closures + 1
    let c := { c with frames := { frame with closures := ordinal } :: frames }
    match c.bodies[frame.index]? with
    | none => c
    | some parent =>
      c.enter { path := closureName parent.path ordinal, row, associated := parent.associated,
                closure := true }

/-- Closes the innermost body. -/
def leave (c : Collector) : Collector :=
  { c with frames := c.frames.tail }

/-- Adds a reference to the innermost body. -/
def record (c : Collector) (r : Reference) : Collector :=
  match c.frames with
  | [] => c
  | frame :: _ =>
    { c with bodies := c.bodies.modify frame.index fun b =>
      { b with references := b.references.insert r } }

/-- The path with a leading `Self` replaced by the innermost owner; there is none without owner. -/
def ownedPath? (owners : List String) (path : List String) : Option (List String) :=
  match path with
  | [] => some []
  | first :: rest =>
    if first = "Self" then owners.head?.map (· :: rest) else some (first :: rest)

/-- Adds a path that looks like that of a function. -/
def recordPath (c : Collector) (path : List Name) : Collector :=
  if looksCallable path then
    match ownedPath? c.owners (path.map (·.text)) with
    | some segments => c.record (.path (Text.joinSegments segments))
    | none => c
  else c

/-- Opens a module, or the block of a type, whose name then stands for `Self` as well. -/
def enterScope (c : Collector) (name : String) (owner : Bool) : Collector :=
  { c with
    scope := c.scope ++ [name]
    owners := if owner then name :: c.owners else c.owners }

/-- Closes the innermost module or block. -/
def leaveScope (c : Collector) (owner : Bool) : Collector :=
  { c with
    scope := c.scope.dropLast
    owners := if owner then c.owners.tail else c.owners }

mutual

/-- Walks over an outline. -/
def visit (c : Collector) : Outline → Collector
  | .mention path => c.recordPath path
  | .method name => c.record (.method name.text)
  | .closure row inside =>
    -- Outside all bodies a closure opens none, and what is in it belongs to nobody.
    if c.frames.isEmpty then visitAll c inside else (visitAll (c.enterClosure row) inside).leave
  | .function name row associated inside =>
    (visitAll (c.enterFunction name.text row associated) inside).leave
  -- Without a body there is nothing to look at, not even the head.
  | .requirement .. => c
  | .owner type inside => (visitAll (c.enterScope type.text true) inside).leaveScope true
  | .module name inside => (visitAll (c.enterScope name.text false) inside).leaveScope false
  -- The items of such a module are found in the file that it has for itself.
  | .moduleFile .. => c
  | .invocation (some arguments) => visitAll c arguments
  | .invocation none => c

/-- Walks over a forest, in order. -/
def visitAll (c : Collector) : Forest → Collector
  | [] => c
  | o :: os => visitAll (visit c o) os

end

end Collector

/-- The bodies in the outline of a file, in the order in which they are opened. -/
def bodiesOf (m : ModulePath) (outline : Forest) : List Body :=
  (Collector.visitAll { scope := m } outline).bodies.toList

end CallReach.Source
