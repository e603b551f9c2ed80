import CallReach.Files.Tree
import CallReach.Path

/-!
# Source files of a directory

All Rust source files in a directory and the directories in it. Some directories are left out
wherever they stand: those with build products, version control data and tools. A walk may come upon
entries in any order, so what it finds is sorted at the end.
-/

namespace CallReach

/-- An entry that a walk comes upon, with the names that lead to it from where the walk starts. -/
structure Visit where
  names : List String
  entry : Entry
  deriving DecidableEq, Repr

namespace Visit

/-- The path of an entry, which starts as the path where the walk starts. -/
def path (root : String) (v : Visit) : String := v.names.foldl Path.join root

/-- Whether an entry is a Rust source file. -/
def isSource (root : String) (v : Visit) : Bool :=
  match v.entry with
  | .directory => false
  | .file _ => Path.extension? (v.path root) = some "rs"

/-- The paths of the Rust source files that a walk has come upon, in order. -/
def sources (root : String) (visits : List Visit) : List String :=
  Path.sort ((visits.filter (·.isSource root)).map (·.path root))

end Visit

namespace FileTree

/-- Names of directories that hold no sources. -/
def excludedNames : List String := ["target", ".git", "node_modules", ".cargo"]

/-- What stands at a place and below it. -/
def below (t : FileTree) (p : Place) : List Visit :=
  ((t.entry? p).toList.map fun e => { names := [], entry := e }) ++
    t.entries.toList.filterMap fun (q, e) =>
      if p.isPrefixOf q && p.length < q.length then some { names := q.drop p.length, entry := e }
      else none

/-- Whether the names below a place lead to a directory that is left out. The place itself never
is. -/
def isExcluded (t : FileTree) (p : Place) (excludes names : List String) : Bool :=
  match names.getLast? with
  | none => false
  | some name => t.entry? (p ++ names) = some .directory && excludes.contains name

/-- Whether none of the directories on the way down, and not the last one either, is left out. -/
def isOpen (t : FileTree) (p : Place) (excludes names : List String) : Bool :=
  (List.range (names.length + 1)).all fun n => !t.isExcluded p excludes (names.take n)

/-- What a walk comes upon. It does not enter directories that are left out. -/
def walk (t : FileTree) (p : Place) (excludes : List String) : List Visit :=
  (t.below p).filter fun v => t.isOpen p excludes v.names

/-- What is said of a path that cannot be searched: what was being done, where it failed, and why,
each after a colon. -/
def gatherComplaint (root : String) (e : FileError) : String :=
  ": ".intercalate
    [s!"Failed to gather .rs files from {root}",
     s!"IO error for operation on {root}: {e.message}",
     e.message]

/-- The Rust source files at or below a path, in order. Paths start as the given one does. -/
def gather (t : FileTree) (root : String) (excludes : List String := []) :
    Except String (List String) :=
  match t.locate root with
  | .error e => .error (gatherComplaint root e)
  | .ok place => .ok (Visit.sources root (t.walk place (excludedNames ++ excludes)))

end FileTree

end CallReach
