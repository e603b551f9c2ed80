import CallReach.Command.Run

/-!
# The command

Reads the part of the disk that a run may look at into a file tree, runs the command on it, prints
what it comes to and writes the files that changed.
-/

namespace CallReach.Main

/-- The place of an absolute path. -/
def placeOf (path : String) : Place := (FileTree.pieces path).filter (· ≠ "")

/-- Reads the entry at a place, if there is one. -/
def readEntry (p : Place) : IO (Option Entry) := do
  let path := (← IO.currentDir) / Place.text p
  if ← path.isDir then return some .directory
  else if ← path.pathExists then
    try return some (.file (String.fromUTF8? (← IO.FS.readBinFile path)))
    catch _ => return none
  else return none

/-- Adds what stands at a path and on the way to it. -/
def addPath (t : FileTree) (path : String) : IO FileTree := do
  let p := placeOf (Path.absolute (Place.text t.cwd) path)
  let mut t := t
  for n in List.range (p.length + 1) do
    let q := p.take n
    if n > 0 && (t.entry? q).isNone then
      if let some e ← readEntry q then t := t.add q e
  return t

/-- Adds everything below a directory, apart from directories that hold no sources. -/
partial def addBelow (t : FileTree) (p : Place) : IO FileTree := do
  let mut t := t
  for e in ← ((← IO.currentDir) / Place.text p).readDir do
    let q := p ++ [e.fileName]
    if let some entry ← readEntry q then
      t := t.add q entry
      if entry = .directory && !FileTree.excludedNames.contains e.fileName then t ← addBelow t q
  return t

/-- Reads the part of the disk that the flags are about. -/
def snapshot (f : Flags) (cwd : String) : IO FileTree := do
  let mut t ← addPath { cwd := placeOf cwd } "."
  for path in f.config.toList ++ f.model.toList ++ f.dotFile.toList do
    t ← addPath t path
  if let .ok i := f.inputs then
    let dir := repositoryDir i.repo f.test
    t ← addPath t dir
    t ← addPath t (Path.join dir "Cargo.toml")
    t ← addPath t (Path.join dir FileSettings.fileName)
    if f.model.isNone then
      let p := placeOf (Path.absolute cwd dir)
      if t.entry? p = some .directory then t ← addBelow t p
  return t

/-- Writes the files of a tree that are not the same in an earlier one. -/
def writeChanges (before after : FileTree) : IO Unit := do
  for (p, e) in after.entries.toList do
    if let .file (some text) := e then
      if before.entries[p]? ≠ some e then IO.FS.writeFile (Place.text p) text

/-- The line of a log entry. -/
def logLine (e : Log.Entry) : String :=
  (Json.record [("level", .text e.level.text), ("fields", .record e.fields),
    ("target", .text e.target)]).compact

end CallReach.Main

open CallReach CallReach.Main

/-- Runs the command. -/
def main (args : List String) : IO UInt32 := do
  let cwd := (← IO.currentDir).toString
  let tree ← match Flags.parse args with
    | .flags f => snapshot f cwd
    | _ => pure { cwd := placeOf cwd }
  let o := run args tree
  for e in Log.shown (← IO.getEnv "RUST_LOG") o.logs do
    IO.eprintln (logLine e)
  writeChanges tree o.tree
  IO.print o.stdout
  if let some trouble := o.trouble then IO.eprintln trouble.text
  else if o.exit = 2 then IO.eprint "error: invalid arguments\n"
  return o.exit.toUInt32
