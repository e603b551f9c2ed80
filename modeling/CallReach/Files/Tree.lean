import CallReach.Failure
import CallReach.Text.Blank
import Std.Data.TreeMap
import Std.Data.TreeMap.Lemmas

/-!
# File trees

Directories and files, seen from a working directory. A place in the tree is the list of names that
lead to it from the root. Paths are followed name by name, so that every directory on the way has to
exist.
-/

namespace CallReach

/-- What stands at a place. A file has a text unless its bytes form none. -/
inductive Entry where
  | directory
  | file (content : Option String)
  deriving DecidableEq, Repr

/-- Why a path cannot be followed, or a file not be read or written. -/
inductive FileError where
  | notFound
  | notDirectory
  | isDirectory
  | nameTooLong
  | notText
  | holdsNul
  deriving DecidableEq, Repr

/-- The text of an error. -/
def FileError.message : FileError → String
  | notFound => "No such file or directory (os error 2)"
  | notDirectory => "Not a directory (os error 20)"
  | isDirectory => "Is a directory (os error 21)"
  | nameTooLong => "File name too long (os error 36)"
  | notText => "stream did not contain valid UTF-8"
  | holdsNul => "file name contained an unexpected NUL byte"

/-- Names from the root to an entry. -/
abbrev Place := List String

/-- The absolute path of a place. -/
def Place.text (p : Place) : String := "/" ++ "/".intercalate p

/-- A file tree and the working directory in it. The root is always a directory. -/
structure FileTree where
  entries : Std.TreeMap Place Entry := ∅
  cwd : Place := []

namespace FileTree

/-- What stands at a place. -/
def entry? (t : FileTree) (p : Place) : Option Entry :=
  if p.isEmpty then some .directory else t.entries[p]?

/-- Adds an entry, and directories on the way to it where nothing stands. -/
def add (t : FileTree) (p : Place) (e : Entry) : FileTree :=
  let parents := (List.range p.length).map p.take
  let entries :=
    parents.foldl (fun es q => if q.isEmpty then es else es.insertIfNew q .directory) t.entries
  { t with entries := entries.insert p e }

/-- The longest name, in bytes. -/
def nameLimit : Nat := 255

/-- The longest path, in bytes. -/
def pathLimit : Nat := 4095

/-- The pieces of a path between slashes. -/
def pieces (path : String) : List String := (Text.cutAt '/' path.toList).map String.ofList

/-- Where a path starts: at the root or in the working directory. -/
def origin (t : FileTree) (path : String) : Place :=
  if path.toList.head? = some '/' then [] else t.cwd

/-- Follows one piece of a path from a directory. -/
def enter (t : FileTree) (p : Place) (piece : String) : Except FileError Place :=
  -- Even an empty piece, as behind a trailing slash, asks for a directory.
  if t.entry? p ≠ some .directory then .error .notDirectory
  else if piece = "" || piece = "." then .ok p
  else if piece = ".." then .ok p.dropLast
  else if piece.utf8ByteSize > nameLimit then .error .nameTooLong
  else if (t.entry? (p ++ [piece])).isSome then .ok (p ++ [piece])
  else .error .notFound

/-- Checks a path before it is followed. -/
def check (path : String) : Except FileError Unit :=
  if path.toList.contains '\x00' then .error .holdsNul
  else if path = "" then .error .notFound
  else if path.utf8ByteSize > pathLimit then .error .nameTooLong
  else .ok ()

/-- The place that a path leads to. -/
def locate (t : FileTree) (path : String) : Except FileError Place := do
  check path
  (pieces path).foldlM t.enter (t.origin path)

/-- What a path leads to. -/
def lookup (t : FileTree) (path : String) : Except FileError Entry := do
  match t.entry? (← t.locate path) with
  | some e => return e
  | none => throw .notFound

/-- Whether a path leads to anything. -/
def pathExists (t : FileTree) (path : String) : Bool := (t.lookup path).isOk

/-- Whether a path leads to a directory. -/
def isDirectory (t : FileTree) (path : String) : Bool :=
  match t.lookup path with
  | .ok .directory => true
  | _ => false

/-- Whether a path leads to a file. -/
def isFile (t : FileTree) (path : String) : Bool :=
  match t.lookup path with
  | .ok (.file _) => true
  | _ => false

/-- The text of a file. -/
def read (t : FileTree) (path : String) : Except FileError String := do
  match ← t.lookup path with
  | .directory => throw .isDirectory
  | .file none => throw .notText
  | .file (some text) => return text

/-- The text of a file; the failure names its path. -/
def readFile (t : FileTree) (path : String) : Except Failure String :=
  (t.read path).mapError fun e => .io path e.message

/-- The pieces of a path up to the last one that is not empty, and whether slashes follow it. -/
def trimmedPieces (path : String) : List String × Bool :=
  let back := (pieces path).reverse
  ((back.dropWhile (· = "")).reverse, back.head? = some "")

/-- The place that a file to be written has: its directory has to exist, no slash may follow its
name, and no directory may stand in its place. -/
def target (t : FileTree) (path : String) : Except FileError Place := do
  check path
  let (ps, slashed) := trimmedPieces path
  let last := ps.getLast?.getD ""
  let dir ← ps.dropLast.foldlM t.enter (t.origin path)
  if t.entry? dir ≠ some .directory then throw .notDirectory
  if slashed || last = "." || last = ".." then throw .isDirectory
  if last.utf8ByteSize > nameLimit then throw .nameTooLong
  if t.entry? (dir ++ [last]) = some .directory then throw .isDirectory
  return dir ++ [last]

/-- Writes a text to a file, which may be new. -/
def write (t : FileTree) (path text : String) : Except FileError FileTree := do
  let p ← t.target path
  return { t with entries := t.entries.insert p (.file (some text)) }

end FileTree

end CallReach
