import CallReach.Text.Blank

/-!
# Paths

A path is a text. It is read as a list of components, in which repeated slashes, a trailing slash
and `.` inside the path have no part; `.` counts only at the start. `normalize` resolves `.` and
`..` by the text alone, without looking at any file.
-/

namespace CallReach.Path

/-- A component of a path. The order of the constructors is that of sorted paths. -/
inductive Component where
  | root
  | here
  | up
  | name (text : String)
  deriving DecidableEq, Ord, Repr

namespace Component

/-- The component that a piece between slashes stands for, if it counts. -/
def ofPiece? : List Char → Option Component
  | [] => none
  | ['.'] => none
  | ['.', '.'] => some up
  | cs => some (name (String.ofList cs))

/-- The text of a component. -/
def text : Component → String
  | root => "/"
  | here => "."
  | up => ".."
  | name s => s

end Component

/-- The components of a path. -/
def components (p : String) : List Component :=
  match Text.cutAt '/' p.toList with
  | [] => []
  | [] :: [] => []
  | [] :: rest => .root :: rest.filterMap Component.ofPiece?
  | ['.'] :: rest => .here :: rest.filterMap Component.ofPiece?
  | pieces => pieces.filterMap Component.ofPiece?

/-- Whether a path starts at the root. -/
def isAbsolute (p : String) : Bool :=
  p.toList.head? = some '/'

/-- The path `p` seen from `base`. An absolute path stays as it is. -/
def join (base p : String) : String :=
  if isAbsolute p then p
  else
    match base.toList.getLast? with
    | none => p
    | some '/' => base ++ p
    | some _ => base ++ "/" ++ p

/-- The path with the given components; no component at all gives the empty path. -/
def ofComponents : List Component → String
  | .root :: cs => "/" ++ "/".intercalate (cs.map Component.text)
  | cs => "/".intercalate (cs.map Component.text)

/-- Adds a component to a resolved path whose components stand in reverse: `.` has no effect, and
`..` takes a name back, has no effect at the root, and is kept otherwise. -/
def resolveStep (resolved : List Component) : Component → List Component
  | .here => resolved
  | .up =>
    match resolved with
    | .name _ :: rest => rest
    | .root :: _ => resolved
    | _ => .up :: resolved
  | c => c :: resolved

/-- The components of a path after `.` and `..` have been resolved. -/
def resolve (p : String) : List Component :=
  ((components p).foldl resolveStep []).reverse

/-- The canonical form of a path. -/
def normalize (p : String) : String :=
  match resolve p with
  | [] => "."
  | cs => ofComponents cs

/-- The canonical form of a path that is relative to the directory `cwd` if it is not absolute. -/
def absolute (cwd p : String) : String :=
  if isAbsolute p then normalize p else normalize (join cwd p)

/-- Whether two paths have the same components. -/
def same (p q : String) : Bool := components p = components q

/-- The last component of a path, if it is a name. -/
def fileName? (p : String) : Option String :=
  match (components p).getLast? with
  | some (.name s) => some s
  | _ => none

/-- What follows the last dot of the last component, unless nothing precedes that dot. -/
def extension? (p : String) : Option String := do
  let name ← fileName? p
  let back := name.toList.reverse
  match back.dropWhile (· ≠ '.') with
  | [] => none
  | [_] => none
  | _ => some (String.ofList (back.takeWhile (· ≠ '.')).reverse)

/-- Whether a path comes before or is equal to another one, component by component. -/
def le (p q : String) : Bool :=
  (order (components p) (components q)).isLE
where
  /-- Lexicographic comparison of components. -/
  order : List Component → List Component → Ordering
    | [], [] => .eq
    | [], _ :: _ => .lt
    | _ :: _, [] => .gt
    | a :: as, b :: bs => (compare a b).then (order as bs)

/-- Puts a path into a list before the first one that it does not come after. -/
def insertSorted (p : String) : List String → List String
  | [] => [p]
  | q :: qs => if le p q then p :: q :: qs else q :: insertSorted p qs

/-- The paths in order, component by component. -/
def sort (paths : List String) : List String := paths.foldr insertSorted []

end CallReach.Path
