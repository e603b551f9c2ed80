import CallReach.Analysis.Log
import CallReach.Files.Package
import CallReach.Graph.Render
import CallReach.Json.Program

/-!
# Where programs come from

A program is read from a JSON document, made from the sources of a Rust package, or given as it is.
-/

namespace CallReach

/-- Where a program comes from. -/
inductive Provider where
  /-- A JSON document at a path. -/
  | document (path : String)
  /-- The package at the root of the analysis, under its own name or another one. -/
  | package (name : Option String := none)
  /-- A program at hand. -/
  | given (program : Program)

namespace Provider

/-- The name of a provider in log entries. -/
def name : Provider → String
  | document _ => "json"
  | package _ => "rust-source"
  | given _ => "fixed"

/-- The identifier of a module as the provider spells it in names. -/
def spelling (v : Provider) (module : String) : String :=
  match v with
  | package _ => FileTree.packageSpelling module
  | _ => module

/-- The program of a package, and what is noted about it. -/
def loadPackage (t : FileTree) (root : String) (name : Option String) :
    Except Failure (Program × List Log.Entry) := do
  let name ← name.elim (t.packageName root) pure
  let units ← t.packageUnits root
  let p := Source.link name units
  let detail := s!"crate={name} files={units.length} functions={p.functions.length} " ++
    s!"edges={p.calls.length}"
  return (p, [Log.event "RUST_MODEL_BUILT" detail])

/-- The program that an analysis looks at, and what is noted on the way. -/
def load (v : Provider) (t : FileTree) (c : Settings) :
    Except Failure (Program × List Log.Entry) := do
  let (p, notes) ← match v with
    | document path => do pure (← Program.parse (← t.readFile path) path c.root, [])
    | package name => loadPackage t c.root name
    | given p => pure (p, [])
  return (p, notes ++ [Log.entry .info (stage "builder") "program model loaded"
    [("provider", .text v.name), ("functions", .nat p.functions.length),
      ("edges", .nat p.calls.length)]])

/-- The settings with the identifier of the module as the provider spells it. -/
def settings (v : Provider) (c : Settings) : Settings := c.withModule (v.spelling c.module)

/-- Analyses the program that the provider gives. -/
def report (v : Provider) (t : FileTree) (c : Settings) :
    Except Failure (Report × List Log.Entry) := do
  let (p, notes) ← v.load t c
  return (analyze (v.settings c) p, notes ++ analysisLog (v.settings c) p)

/-- The call graph of the program that the provider gives. -/
def callGraph (v : Provider) (t : FileTree) (c : Settings) :
    Except Failure (CallGraph × List Log.Entry) := do
  let (p, notes) ← v.load t c
  return (p.callGraph (v.settings c), notes ++ graphLog (v.settings c) p)

end Provider

end CallReach
